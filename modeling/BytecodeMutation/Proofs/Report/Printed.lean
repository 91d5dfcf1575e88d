import BytecodeMutation.Proofs.Command.Session
import BytecodeMutation.Proofs.Report.Order

/-! The console report. It prints one entry for every site in the order of the listing, and an entry
depends on nothing but the site, the files, and whether there are colours. -/

namespace BytecodeMutation

namespace Session

variable {ε α : Type} {s : Session}

/-- An action that prints a text and does nothing else, where files and colours are those of `s`. -/
def Prints (s : Session) (x : ExceptT ε (StateM Session) Unit) (text : String) : Prop :=
  ∀ r : Session, r.tree = s.tree → r.coloured = s.coloured → run x r = (.ok (), r.shown text)

theorem prints_print (text : String) :
    s.Prints (Workspace.print text : ExceptT ε (StateM Session) Unit) text :=
  fun _ _ _ => rfl

theorem prints_forM {f : α → ExceptT ε (StateM Session) Unit} {text : α → String} {xs : List α}
    (h : ∀ a ∈ xs, s.Prints (f a) (text a)) :
    s.Prints (xs.forM f) (String.join (xs.map text)) := by
  induction xs with
  | nil =>
    intro r _ _
    rw [List.map_nil, String.join_nil, shown_empty]
    rfl
  | cons a xs ih =>
    intro r htree hcoloured
    change run (f a >>= fun _ => xs.forM f) r = _
    rw [run_bind, h a List.mem_cons_self r htree hcoloured, List.map_cons, String.join_cons,
      ← shown_shown]
    exact ih (fun b hb => h b (List.mem_cons_of_mem a hb)) _ htree hcoloured

end Session

namespace Listing

open Session

variable {ε : Type} {rename : String → String} {sites : List MutationSite}

/-- The source line of a group among these files. -/
def sourceIn (tree : FileTree) (g : Group) : String :=
  if g.file = unknownFile ∨ g.line = 0 then ""
  else
    match tree.readText? g.file with
    | none => ""
    | some text => (line? text g.line).getD ""

theorem run_sourceLine (g : Group) (s : Session) :
    run (sourceLine g : ExceptT ε (StateM Session) String) s = (.ok (sourceIn s.tree g), s) := by
  unfold sourceLine sourceIn
  split
  · rfl
  · rw [run_bind]
    change run (match s.tree.readText? g.file with
      | none => pure ""
      | some text => pure ((line? text g.line).getD "")) s = _
    split <;> rfl

/-- The entry of a site where files and colours are those of a session. -/
def entryIn (s : Session) (rename : String → String) (site : MutationSite) : String :=
  let place : Group := ⟨fileOf rename site, lineOf site, []⟩
  entry s.coloured place (sourceIn s.tree place) site

theorem entryIn_logged (s : Session) (log : Log) (rename : String → String) :
    entryIn (s.logged log) rename = entryIn s rename := rfl

/-- An entry does not depend on the other sites of its line. -/
theorem entry_eq_entryIn (s : Session) {g : Group} (hg : g ∈ groups rename sites)
    {site : MutationSite} (hsite : site ∈ g.sites) :
    entry s.coloured g (sourceIn s.tree g) site = entryIn s rename site := by
  obtain ⟨⟨file, lines⟩, hfile, hg⟩ := List.mem_flatMap.1 hg
  obtain ⟨⟨line, there⟩, hline, rfl⟩ := List.mem_map.1 hg
  have hplace := (Grouped.byFile rename sites).placeOf_of_mem hfile hline hsite
  obtain ⟨rfl, rfl⟩ := Prod.mk.inj hplace
  rfl

theorem join_flatMap {α : Type} (f : α → List String) (xs : List α) :
    String.join (xs.flatMap f) = String.join (xs.map fun a => String.join (f a)) := by
  induction xs with
  | nil => rfl
  | cons a xs ih =>
    rw [List.flatMap_cons, String.join_append, List.map_cons, String.join_cons, ih]

/-- The report prints the entries in the order of the listing. -/
theorem run_print (rename : String → String) (sites : List MutationSite) (s : Session) :
    run (print rename sites : ExceptT ε (StateM Session) Unit) s =
      (.ok (), (s.shown (String.join ((listed rename sites).map (entryIn s rename)))).logged
        (SiteSummary.of sites).log) := by
  have hgroup : ∀ g ∈ groups rename sites,
      s.Prints (do
        let source ← sourceLine g
        g.sites.forM fun site => Workspace.print (entry s.coloured g source site) :
          ExceptT ε (StateM Session) Unit)
        (String.join (g.sites.map (entryIn s rename))) := by
    intro g hg r htree hcoloured
    rw [run_bind, run_sourceLine, htree]
    refine prints_forM (fun site hsite => ?_) r htree hcoloured
    rw [← entry_eq_entryIn s hg hsite]
    exact prints_print _
  have hall := prints_forM hgroup s rfl rfl
  rw [← join_flatMap, ← List.map_flatMap] at hall
  rw [print, run_bind]
  change run (_ >>= fun _ => Workspace.log (SiteSummary.of sites).log) s = _
  rw [run_bind, hall]
  rfl

end Listing

end BytecodeMutation
