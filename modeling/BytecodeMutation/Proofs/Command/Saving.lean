import BytecodeMutation.Proofs.Command.Files

/-! Saving a catalog. It is written beside its file and moved over it, so two places are touched:
the file and the temporary one beside it. A saved catalog has taken the place of the old one, with
nothing left beside it, and a catalog that could not be saved has left the old one as it was. -/

namespace BytecodeMutation

open Session (run)
open FileTree (SameExceptAt)

/-- Saving succeeds exactly if files can be put at the path and at the temporary path. The path then
leads to the text of the catalog, no file is left at the temporary path, and everything else is as
it was. Otherwise what the path leads to is as it was, and so is everything but what the temporary
path leads to; if no file can be put there, nothing has changed at all. -/
theorem SignatureCatalog.saving_changes_two_places (c : SignatureCatalog) (path : String)
    (s : Session) :
    (∃ target temporary tree, s.tree.filePlace? path = some target ∧
      s.tree.filePlace? (savePath path) = some temporary ∧
      run (c.save path : ExceptT Error (StateM Session) Unit) s = (.ok (), { s with tree }) ∧
      tree.node? target = some (.file c.toText) ∧
      (temporary ≠ target → tree.node? temporary = none) ∧
      SameExceptAt [target, temporary] s.tree tree) ∨
    ∃ tree, (s.tree.filePlace? path = none ∨ s.tree.filePlace? (savePath path) = none) ∧
      run (c.save path : ExceptT Error (StateM Session) Unit) s =
        (.error .io, { s with tree }) ∧
      tree.lookup? path = s.tree.lookup? path ∧
      SameExceptAt (s.tree.resolve? (savePath path)).toList s.tree tree ∧
      (s.tree.filePlace? (savePath path) = none → tree = s.tree) := by
  rw [run_save, FileTree.writeText?]
  cases htemporary : s.tree.filePlace? (savePath path) with
  | none => exact .inr ⟨s.tree, .inr rfl, rfl, rfl, .refl _ _, fun _ => rfl⟩
  | some temporary =>
    obtain ⟨hresolve, hfile⟩ := FileTree.filePlace?_eq_some.1 htemporary
    have hroot := FileTree.ne_nil_of_isDirectory hfile
    simp only [Option.map_some, FileTree.moveFile?_put htemporary]
    cases htarget : s.tree.filePlace? path with
    | none =>
      refine .inr ⟨_, .inl rfl, rfl, FileTree.lookup?_put_of_filePlace? hfile htarget, ?_, nofun⟩
      rw [hresolve]
      exact FileTree.sameExceptAt_put hroot
    | some target =>
      have hroot' := FileTree.ne_nil_of_isDirectory (FileTree.filePlace?_eq_some.1 htarget).2
      refine .inl ⟨target, temporary, _, rfl, rfl, rfl, ?_, fun hne => ?_, rfl, fun other h => ?_⟩
      · rw [FileTree.node?_moved hroot hroot', if_pos rfl]
      · rw [FileTree.node?_moved hroot hroot', if_neg hne, if_pos rfl]
      · simp only [List.mem_cons, List.not_mem_nil, or_false, not_or] at h
        rw [FileTree.node?_moved hroot hroot', if_neg h.1, if_neg h.2]

namespace Sample

/-- A draft beside the place of a catalog, and a directory at the place of another one. -/
def desk : Session := .start ⟨[], [(["c.tmp"], .file "draft"), (["d"], .directory)]⟩ false

end Sample

open Sample in
/-- A file that stands at the temporary path is lost when a catalog is saved, and where the catalog
cannot be moved to its path, it stays at the temporary one. -/
theorem SignatureCatalog.saving_touches_temporary_path :
    (∃ t, run (empty.save "c.json" : ExceptT Error (StateM Session) Unit) desk = (.ok (), t) ∧
      desk.tree.lookup? "c.tmp" = some (.file "draft") ∧ t.tree.lookup? "c.tmp" = none) ∧
    ∃ t, run (empty.save "d" : ExceptT Error (StateM Session) Unit) desk = (.error .io, t) ∧
      desk.tree.lookup? "d.tmp" = none ∧ t.tree.lookup? "d.tmp" = some (.file empty.toText) := by
  refine ⟨⟨_, Prod.ext (toOption_eq_some.1 (by decide +kernel)) rfl, ?_, ?_⟩,
    ⟨_, Prod.ext ?_ rfl, ?_, ?_⟩⟩ <;> decide +kernel

end BytecodeMutation
