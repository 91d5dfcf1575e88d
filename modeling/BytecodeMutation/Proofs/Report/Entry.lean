import BytecodeMutation.Proofs.Decimal.Digits
import BytecodeMutation.Proofs.Digest.Md5
import BytecodeMutation.Proofs.Report.Printed

/-! What an entry of the console report shows. The rule is given apart from the code that prints:
which line of a text has a number, what stands for the source of a place, and of what parts an entry
consists. What is printed for a site follows this rule, whatever the site, the files and the
renaming are. -/

namespace BytecodeMutation.Listing

/-! ### The lines of a text -/

/-- Whether a text has a line with a number, the first being number one. A line feed ends a line,
and a carriage return before it belongs to the end; the last line may lack its end if it is not
empty. -/
inductive HasLine : List Char → Nat → List Char → Prop
  | ended {line : List Char} (rest : List Char) (hfeed : '\n' ∉ line)
      (hreturn : line.getLast? ≠ some '\r') : HasLine (line ++ '\n' :: rest) 1 line
  | returned {line : List Char} (rest : List Char) (hfeed : '\n' ∉ line) :
      HasLine (line ++ '\r' :: '\n' :: rest) 1 line
  | last {line : List Char} (hfeed : '\n' ∉ line) (hne : line ≠ []) : HasLine line 1 line
  | later {skipped rest line : List Char} {number : Nat} (hfeed : '\n' ∉ skipped)
      (h : HasLine rest number line) : HasLine (skipped ++ '\n' :: rest) (number + 1) line

variable {line rest text : List Char}

theorem lines_cons {c : Char} (hc : c ≠ '\n') (h : c = '\r' → rest.head? ≠ some '\n') :
    lines (c :: rest) = match lines rest with
      | [] => [[c]]
      | line :: others => (c :: line) :: others :=
  lines.eq_4 c rest (fun _ hreturn hrest => h hreturn (congrArg List.head? hrest)) hc

/-- Characters in front of a text become the beginning of its first line. -/
theorem lines_append {first : List Char} {others : List (List Char)} (hfeed : '\n' ∉ line)
    (hreturn : line.getLast? = some '\r' → rest.head? ≠ some '\n')
    (h : lines rest = first :: others) : lines (line ++ rest) = (line ++ first) :: others := by
  induction line with
  | nil => exact h
  | cons c line ih =>
    obtain ⟨hc, hline⟩ := not_or.1 (mt List.mem_cons.2 hfeed)
    have hnext : c = '\r' → (line ++ rest).head? ≠ some '\n' := by
      cases line with
      | nil => exact fun hc => hreturn (congrArg some hc)
      | cons d line =>
        intro _ hd
        obtain rfl := Option.some.inj hd
        exact hline List.mem_cons_self
    have hrest : line.getLast? = some '\r' → rest.head? ≠ some '\n' := fun hlast =>
      hreturn (by rw [List.getLast?_cons, hlast]; rfl)
    rw [List.cons_append, lines_cons (Ne.symm hc) hnext, ih hline hrest]
    rfl

theorem lines_returned (hfeed : '\n' ∉ line) :
    lines (line ++ '\r' :: '\n' :: rest) = line :: lines rest := by
  have h : lines ('\r' :: '\n' :: rest) = [] :: lines rest := rfl
  rw [lines_append hfeed (by simp) h, List.append_nil]

theorem lines_ended (hfeed : '\n' ∉ line) (hreturn : line.getLast? ≠ some '\r') :
    lines (line ++ '\n' :: rest) = line :: lines rest := by
  have h : lines ('\n' :: rest) = [] :: lines rest := rfl
  rw [lines_append hfeed (absurd · hreturn) h, List.append_nil]

theorem lines_last (hfeed : '\n' ∉ line) (hne : line ≠ []) : lines line = [line] := by
  obtain ⟨before, c, rfl⟩ := (List.eq_nil_or_concat line).resolve_left hne
  rw [List.concat_eq_append] at hfeed ⊢
  obtain ⟨hbefore, hc⟩ := not_or.1 (mt List.mem_append.2 hfeed)
  have hc' : c ≠ '\n' := fun h => hc (h ▸ List.mem_cons_self)
  exact lines_append hbefore (by simpa using fun _ => hc') (lines_cons hc' (by simp))

/-- The first line feed ends a line, with or without a carriage return. -/
theorem exists_lines_eq_cons (hfeed : '\n' ∉ line) (rest : List Char) :
    ∃ first, HasLine (line ++ '\n' :: rest) 1 first ∧
      lines (line ++ '\n' :: rest) = first :: lines rest := by
  by_cases hreturn : line.getLast? = some '\r'
  · obtain ⟨first, rfl⟩ := List.getLast?_eq_some_iff.1 hreturn
    have hfirst : '\n' ∉ first := fun h => hfeed (List.mem_append_left _ h)
    rw [List.append_assoc, List.singleton_append]
    exact ⟨first, .returned rest hfirst, lines_returned hfirst⟩
  · exact ⟨line, .ended rest hfeed hreturn, lines_ended hfeed hreturn⟩

theorem HasLine.getElem?_lines {number : Nat} (h : HasLine text number line) :
    ∃ n, number = n + 1 ∧ (lines text)[n]? = some line := by
  induction h with
  | ended rest hfeed hreturn => exact ⟨0, rfl, by rw [lines_ended hfeed hreturn]; rfl⟩
  | returned rest hfeed => exact ⟨0, rfl, by rw [lines_returned hfeed]; rfl⟩
  | last hfeed hne => exact ⟨0, rfl, by rw [lines_last hfeed hne]; rfl⟩
  | @later _ rest _ _ hfeed _ ih =>
    obtain ⟨n, rfl, hline⟩ := ih
    obtain ⟨first, -, hlines⟩ := exists_lines_eq_cons hfeed rest
    exact ⟨n + 1, rfl, by rw [hlines]; exact hline⟩

theorem HasLine.functional {number : Nat} {line' : List Char} (h : HasLine text number line)
    (h' : HasLine text number line') : line = line' := by
  obtain ⟨n, rfl, hline⟩ := h.getElem?_lines
  obtain ⟨m, hm, hline'⟩ := h'.getElem?_lines
  obtain rfl := Nat.succ.inj hm
  exact Option.some.inj (hline.symm.trans hline')

theorem hasLine_of_getElem?_lines {n : Nat} (h : (lines text)[n]? = some line) :
    HasLine text (n + 1) line := by
  -- Each line is split off with its line feed, so the induction is on the length of what is left.
  induction hlength : text.length using Nat.strongRecOn generalizing text n with
  | ind length ih =>
    by_cases hfeed : '\n' ∈ text
    · obtain ⟨skipped, rest, rfl, hskipped⟩ := List.eq_append_cons_of_mem hfeed
      obtain ⟨first, hfirst, hlines⟩ := exists_lines_eq_cons hskipped rest
      rw [hlines] at h
      cases n with
      | zero =>
        obtain rfl := Option.some.inj h
        exact hfirst
      | succ n => exact .later hskipped (ih rest.length (by simp [← hlength]; omega) h rfl)
    · by_cases hne : text = []
      · subst hne
        cases h
      · rw [lines_last hfeed hne] at h
        obtain ⟨rfl, rfl⟩ : n = 0 ∧ text = line := by
          cases n with
          | zero => exact ⟨rfl, Option.some.inj h⟩
          | succ n => cases h
        exact .last hfeed hne

theorem line?_eq_some_iff {text : String} {number : Nat} {line : String} :
    line? text number = some line ↔ HasLine text.toList number line.toList := by
  unfold line?
  split
  · rename_i hzero
    refine ⟨nofun, fun h => ?_⟩
    obtain ⟨n, hn, -⟩ := h.getElem?_lines
    omega
  · rename_i hpos
    obtain ⟨n, rfl⟩ := Nat.exists_eq_succ_of_ne_zero hpos
    rw [Nat.succ_eq_add_one, Nat.add_sub_cancel, Option.map_eq_some_iff]
    constructor
    · rintro ⟨cs, hcs, rfl⟩
      rw [String.toList_ofList]
      exact hasLine_of_getElem?_lines hcs
    · intro h
      obtain ⟨m, hm, hline⟩ := h.getElem?_lines
      obtain rfl := Nat.succ.inj hm
      exact ⟨line.toList, hline, String.ofList_toList⟩

/-! ### Source lines -/

/-- What stands for the source of a line of a file: the line itself, and nothing if the file is not
known, cannot be read or has no such line. -/
inductive IsSource (tree : FileTree) (file : String) (number : Nat) : String → Prop
  | line {text source : String} (hfile : file ≠ "<unknown>")
      (htext : tree.readText? file = some text)
      (hline : HasLine text.toList number source.toList) : IsSource tree file number source
  | missing (h : ∀ text source, file ≠ "<unknown>" → tree.readText? file = some text →
      ¬ HasLine text.toList number source) : IsSource tree file number ""

theorem IsSource.functional {tree : FileTree} {file source source' : String} {number : Nat}
    (h : IsSource tree file number source) (h' : IsSource tree file number source') :
    source = source' := by
  cases h with
  | line hfile htext hline =>
    cases h' with
    | line _ htext' hline' =>
      obtain rfl := Option.some.inj (htext.symm.trans htext')
      exact String.toList_inj.1 (hline.functional hline')
    | missing hno => exact absurd hline (hno _ _ hfile htext)
  | missing hno =>
    cases h' with
    | line hfile htext hline => exact absurd hline (hno _ _ hfile htext)
    | missing => rfl

theorem isSource_sourceIn (tree : FileTree) (g : Group) :
    IsSource tree g.file g.line (sourceIn tree g) := by
  unfold sourceIn
  split
  · rename_i hplace
    refine .missing fun text source hfile _ hline => ?_
    obtain ⟨n, hn, -⟩ := hline.getElem?_lines
    rcases hplace with hunknown | hzero
    · exact hfile hunknown
    · omega
  rename_i hplace
  have hfile : g.file ≠ "<unknown>" := fun h => hplace (.inl h)
  split
  · rename_i hnone
    refine .missing fun text source _ htext _ => ?_
    rw [hnone] at htext
    cases htext
  rename_i text htext
  cases hline : line? text g.line with
  | some source => exact .line hfile htext (line?_eq_some_iff.1 hline)
  | none =>
    refine .missing fun text' source _ htext' hsource => ?_
    obtain rfl := Option.some.inj (htext.symm.trans htext')
    rw [← String.toList_ofList (l := source), ← line?_eq_some_iff, hline] at hsource
    cases hsource

/-! ### Entries -/

/-- The tag of a category and the number of the colour it is printed in. -/
def tagAndColour : Category → String × String
  | .operatorSubstitution => ("SUBST", "34")
  | .operandElimination => ("OPERAND", "35")
  | .constantPerturbation => ("CONST", "36")
  | .unaryStep => ("UNARY", "33")
  | .negationInsertion => ("NEGATE", "33")
  | .callSubstitution => ("CALL", "32")

/-- Whether a text is what is printed of a site: the file, with the line if there is one, and the
method; the tag, in its colour if there are colours, the ordinal, the first eight digits of the
digest that names the site, the operator and the description; and the source line. -/
def Shows (s : Session) (rename : String → String) (a : MutationSite) (text : String) : Prop :=
  let file := (a.location.file.map rename).getD "<unknown>"
  let line := (a.location.line.map UInt32.toNat).getD 0
  let place := if line = 0 then file else file ++ ":" ++ toString line
  let method := a.id.method.owner ++ "." ++ a.id.method.name ++ a.id.method.descriptor
  let tag := (tagAndColour a.category).1
  let colour := (tagAndColour a.category).2
  ∃ handle source : String, handle.length = 8 ∧
    handle.toList <+:
      (Md5.hex (method ++ "#" ++ a.id.operator ++ "@" ++ toString a.id.index)).toList ∧
    IsSource s.tree file line source ∧
    text = place ++ " (" ++ method ++ "):\n" ++
      (if s.coloured then "\x1b[" ++ colour ++ "m" ++ tag ++ "\x1b[0m" else tag) ++ " #" ++
      toString a.ordinal ++ " [" ++ handle ++ "] " ++ a.id.operator ++ ": " ++ a.description ++
      "\n" ++ source ++ "\n"

theorem paintIf_colour (coloured : Bool) (c : Category) :
    c.colour.paintIf coloured c.tag =
      if coloured then "\x1b[" ++ (tagAndColour c).2 ++ "m" ++ (tagAndColour c).1 ++ "\x1b[0m"
      else (tagAndColour c).1 := by
  cases c <;> rfl

theorem text_eq_toString (id : MutationIdentifier) : id.text =
    id.method.owner ++ "." ++ id.method.name ++ id.method.descriptor ++ "#" ++ id.operator ++ "@" ++
      toString id.index := by
  rw [MutationIdentifier.text, Decimal.natText_eq_toString]
  rfl

theorem shows_entryIn (s : Session) (rename : String → String) (a : MutationSite) :
    Shows s rename a (entryIn s rename a) := by
  let place : Group := ⟨fileOf rename a, lineOf a, []⟩
  refine ⟨String.ofList (a.id.fingerprint.toList.take 8), sourceIn s.tree place, ?_, ?_,
    isSource_sourceIn s.tree place, ?_⟩
  · have hlength : a.id.fingerprint.length = 32 := Md5.length_hex a.id.text
    rw [String.length_ofList, List.length_take, String.length_toList, hlength]
    rfl
  · rw [String.toList_ofList, ← text_eq_toString]
    exact List.take_prefix 8 _
  · simp only [entryIn, entry, paintIf_colour, Decimal.natText_eq_toString]
    rfl

theorem Shows.functional {s : Session} {rename : String → String} {a : MutationSite}
    {text text' : String} (h : Shows s rename a text) (h' : Shows s rename a text') :
    text = text' := by
  obtain ⟨handle, source, hlength, hprefix, hsource, rfl⟩ := h
  obtain ⟨handle', source', hlength', hprefix', hsource', rfl⟩ := h'
  have hhandle : handle = handle' := by
    rw [← String.toList_inj, List.prefix_iff_eq_take.1 hprefix, List.prefix_iff_eq_take.1 hprefix',
      String.length_toList, String.length_toList, hlength, hlength']
  rw [hhandle, hsource.functional hsource']

/-- What is printed of a site is the one text that shows it. -/
theorem shows_iff {s : Session} {rename : String → String} {a : MutationSite} {text : String} :
    Shows s rename a text ↔ text = entryIn s rename a := by
  constructor
  · exact fun h => h.functional (shows_entryIn s rename a)
  · rintro rfl
    exact shows_entryIn s rename a

end BytecodeMutation.Listing
