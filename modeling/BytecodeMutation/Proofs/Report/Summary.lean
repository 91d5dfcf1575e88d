import BytecodeMutation.Proofs.Distinct
import BytecodeMutation.Proofs.Report.Entry
import BytecodeMutation.Proofs.Text.Bytes

/-! What the console report tells of the sites: every site has one entry, in the order of the bytes
of its file and of its line, and the summary counts what was listed. -/

namespace BytecodeMutation

open Session Text

namespace SiteSummary

/-- The sites counted by a key: each key that occurs stands there once, with the number of the sites
that have it. -/
structure CountsBy (key : MutationSite → String) (sites : List MutationSite)
    (counts : List (String × Nat)) : Prop where
  nodup_keys : (counts.map Prod.fst).Nodup
  mem_iff : ∀ k n, (k, n) ∈ counts ↔ 0 < n ∧ n = sites.countP fun s => key s = k
  sum_eq : (counts.map Prod.snd).sum = sites.length

theorem countsBy_tally (key : MutationSite → String) (sites : List MutationSite) :
    CountsBy key sites (Keyed.tally (sites.map key)) where
  nodup_keys := Keyed.nodup_keys_tally _
  mem_iff k n := by
    have hcount : (sites.map key).count k = sites.countP fun s => key s = k := by
      rw [List.count, List.countP_map]
      exact List.countP_congr fun s _ => by simp
    rw [Keyed.mem_tally_iff, ← List.count_pos_iff, hcount]
    constructor <;> rintro ⟨hpos, rfl⟩ <;> exact ⟨hpos, rfl⟩
  sum_eq := by rw [Keyed.sum_tally, List.length_map]

end SiteSummary

namespace Listing

theorem inOrder_iff_bytes {rename : String → String} {s t : MutationSite} :
    InOrder rename s t ↔ bytes (fileOf rename s) < bytes (fileOf rename t) ∨
      fileOf rename s = fileOf rename t ∧ lineOf s ≤ lineOf t := by
  rw [InOrder, bytes_lt_iff]

theorem listed_eq_mergeSort_bytes (rename : String → String) (sites : List MutationSite) :
    listed rename sites = sites.mergeSort (fun a b =>
      decide (bytes (fileOf rename a) < bytes (fileOf rename b) ∨
        fileOf rename a = fileOf rename b ∧ lineOf a ≤ lineOf b)) := by
  have hsorted := listed_eq_mergeSort rename sites
  simpa only [inOrder_iff_bytes] using hsorted

/-- Whatever the sites are and however files are renamed, the report prints one entry for each site,
the text that shows this site, and the entries are sorted by the bytes of the file and by the line,
without a change among the sites of one line. Of the same sites the summary gives the number, that of every
category and of every operator, and how many methods they are in. -/
theorem report_loses_and_repeats_nothing {ε : Type} (rename : String → String)
    (sites : List MutationSite) (s : Session) :
    let file := fun a : MutationSite => (a.location.file.map rename).getD "<unknown>"
    let line := fun a : MutationSite => (a.location.line.map UInt32.toNat).getD 0
    ∃ entries : List MutationSite, entries.Perm sites ∧
      entries = sites.mergeSort (fun a b =>
        decide (bytes (file a) < bytes (file b) ∨ file a = file b ∧ line a ≤ line b)) ∧
      run (print rename sites : ExceptT ε (StateM Session) Unit) s =
        (.ok (), (s.shown (String.join (entries.map (entryIn s rename)))).logged
          (SiteSummary.of sites).log) ∧
      (∀ a ∈ entries, ∀ text, Shows s rename a text ↔ text = entryIn s rename a) ∧
      (SiteSummary.of sites).total = entries.length ∧
      SiteSummary.CountsBy (fun a => a.category.tag) sites (SiteSummary.of sites).perCategory ∧
      SiteSummary.CountsBy (fun a => a.id.operator) sites (SiteSummary.of sites).perOperator ∧
      (SiteSummary.of sites).methods = (sites.map fun a => a.id.method).toFinset.card := by
  intro file line
  have hsorted := listed_eq_mergeSort_bytes rename sites
  have hperm : (listed rename sites).Perm sites := hsorted ▸ List.mergeSort_perm sites _
  exact ⟨listed rename sites, hperm, hsorted, run_print rename sites s,
    fun _ _ _ => shows_iff, hperm.length_eq.symm, SiteSummary.countsBy_tally _ sites,
    SiteSummary.countsBy_tally _ sites, length_eraseDups _⟩

end Listing

/-! ### Sites of a file and of none -/

namespace Sample

open Listing

/-- A terminal with colours, beside a file of two lines. -/
def terminal : Session :=
  .start ⟨[], [(["src"], .directory),
    (["src", "A.java"], .file "int f(int a, int b)\r\n  return a + b;\r\n")]⟩ true

/-- A site of the sum on the second line of the file. -/
def sumSite (ordinal : Nat) (operator : String) (category : Category) (description : String) :
    MutationSite :=
  ⟨ordinal, ⟨⟨"A", "f", "(II)I"⟩, operator, 2⟩, category, description, ⟨some "A.java", some 2⟩⟩

def differenceSite : MutationSite :=
  sumSite 0 "aor_isub" .operatorSubstitution "Replaced + with - (int): iadd -> isub"

def operandSite : MutationSite :=
  sumSite 1 "aod_first" .operandElimination "Removed first operand of iadd (int)"

/-- A call of a class without source information. -/
def callSite : MutationSite :=
  ⟨0, ⟨⟨"B", "g", "()V"⟩, "call_replace_name", 0⟩, .callSubstitution,
    "Replaced call to B.h with k", ⟨none, none⟩⟩

def callEntry : String :=
  "<unknown> (B.g()V):\n\x1b[32mCALL\x1b[0m #0 [9e45c7ab] call_replace_name: " ++
    "Replaced call to B.h with k\n\n"

def differenceEntry : String :=
  "src/A.java:2 (A.f(II)I):\n\x1b[34mSUBST\x1b[0m #0 [d09100bd] aor_isub: " ++
    "Replaced + with - (int): iadd -> isub\n  return a + b;\n"

def operandEntry : String :=
  "src/A.java:2 (A.f(II)I):\n\x1b[35mOPERAND\x1b[0m #1 [ada1c861] aod_first: " ++
    "Removed first operand of iadd (int)\n  return a + b;\n"

theorem entryIn_callSite : entryIn terminal ("src/" ++ ·) callSite = callEntry := by
  rw [entryIn, entry, MutationIdentifier.fingerprint, Md5.hex_of_block (by decide +kernel)]
  decide +kernel

theorem entryIn_differenceSite :
    entryIn terminal ("src/" ++ ·) differenceSite = differenceEntry := by
  rw [entryIn, entry, MutationIdentifier.fingerprint, Md5.hex_of_block (by decide +kernel)]
  decide +kernel

theorem entryIn_operandSite : entryIn terminal ("src/" ++ ·) operandSite = operandEntry := by
  rw [entryIn, entry, MutationIdentifier.fingerprint, Md5.hex_of_block (by decide +kernel)]
  decide +kernel

end Sample

open Listing Sample

/-- The site without a file comes first, and those of one line stay in their order. -/
theorem report_on_terminal : ∃ t,
    run (print ("src/" ++ ·) [differenceSite, callSite, operandSite] :
      ExceptT Failure (StateM Session) Unit) terminal = (.ok (), t) ∧
    t.printed = callEntry ++ differenceEntry ++ operandEntry ∧
    t.log = [⟨.info, "CALL            1"⟩, ⟨.info, "OPERAND         1"⟩,
      ⟨.info, "SUBST           1"⟩, ⟨.info, "Total           3 in 2 methods"⟩] := by
  obtain ⟨entries, -, hsorted, hrun, -⟩ := report_loses_and_repeats_nothing (ε := Failure)
    ("src/" ++ ·) [differenceSite, callSite, operandSite] terminal
  have hlisted : listed ("src/" ++ ·) [differenceSite, callSite, operandSite] =
      [callSite, differenceSite, operandSite] := by decide +kernel
  obtain rfl : entries = [callSite, differenceSite, operandSite] :=
    hsorted.trans ((listed_eq_mergeSort_bytes _ _).symm.trans hlisted)
  refine ⟨_, hrun, ?_, by decide +kernel⟩
  simp only [List.map_cons, List.map_nil, entryIn_callSite, entryIn_differenceSite,
    entryIn_operandSite]
  decide +kernel

end BytecodeMutation
