import BytecodeMutation.Proofs.Catalog.Records
import BytecodeMutation.Proofs.Command.Session
import BytecodeMutation.Proofs.FileTree.Changes
import BytecodeMutation.Proofs.Refusal

/-! Units and catalogs in the files of a session: what is loaded stands in its file, and what is
saved is loaded again. -/

namespace BytecodeMutation

open Session

variable {ε α : Type} {s t : Session} {path : String}

/-! ### Actions on files -/

namespace Session

theorem exists_session {a : α} {p : Except ε α × Session} (h : p.1 = .ok a) :
    ∃ t, p = (.ok a, t) := ⟨p.2, Prod.ext h rfl⟩

theorem Reads.tree_eq {x : ExceptT ε (StateM Session) α} {a : α} (hx : Reads x)
    (h : run x s = (.ok a, t)) : t.tree = s.tree := by
  obtain ⟨log, hlog⟩ := hx.again h
  rw [← (Prod.mk.inj ((hlog s rfl).symm.trans h)).2]
  rfl

/-- An action after a check that was passed. -/
theorem run_unless_eq_ok {b : Bool} {e : ε} {x : ExceptT ε (StateM Session) α} {a : α}
    (h : run (if !b then throw e >>= fun _ : PUnit => x else x) s = (.ok a, t)) :
    b = true ∧ run x s = (.ok a, t) := by
  cases b with
  | true => exact ⟨rfl, h⟩
  | false =>
    obtain ⟨_, _, hthrow, -⟩ := run_bind_eq_ok.1 h
    cases hthrow

theorem run_writeText (path text : String) (s : Session) :
    run (Workspace.writeText path text : ExceptT ε (StateM Session) Bool) s =
      (.ok (s.change (s.tree.writeText? path text)).1,
        (s.change (s.tree.writeText? path text)).2) := rfl

theorem run_moveFile (source target : String) (s : Session) :
    run (Workspace.moveFile source target : ExceptT ε (StateM Session) Bool) s =
      (.ok (s.change (s.tree.moveFile? source target)).1,
        (s.change (s.tree.moveFile? source target)).2) := rfl

end Session

/-! ### Units -/

/-- Whether a file holds the text of the unit. -/
def FileTree.HoldsUnit (tree : FileTree) (path : String) (u : ClassUnit) : Prop :=
  ∃ text, tree.readText? path = some text ∧ ClassUnit.ofText? text = some u

theorem ClassUnit.holdsUnit_of_ofFile {u : ClassUnit}
    (h : Session.run (ofFile path : ExceptT Error (StateM Session) ClassUnit) s = (.ok u, t)) :
    s.tree.HoldsUnit path u := by
  rw [ofFile] at h
  obtain ⟨present, s₁, hpresent, h⟩ := run_bind_eq_ok.1 h
  obtain ⟨-, rfl⟩ := Prod.mk.inj hpresent
  obtain ⟨-, h⟩ := run_unless_eq_ok h
  obtain ⟨text?, s₂, hread, h⟩ := run_bind_eq_ok.1 h
  obtain ⟨htext, rfl⟩ := Prod.mk.inj hread
  cases text? with
  | none => cases h
  | some text =>
    dsimp only at h
    cases hu : ofText? text with
    | none => rw [hu] at h; cases h
    | some u' =>
      rw [hu] at h
      obtain rfl := Except.ok.inj (Prod.mk.inj h).1
      exact ⟨text, Except.ok.inj htext, hu⟩

/-! ### Catalogs -/

namespace SignatureCatalog

/-- What saving comes to: the text is written, and then moved. -/
theorem run_save (c : SignatureCatalog) (path : String) (s : Session) :
    Session.run (c.save path : ExceptT Error (StateM Session) Unit) s =
      match s.tree.writeText? (savePath path) c.toText with
      | none => (.error .io, s)
      | some written =>
        match written.moveFile? (savePath path) path with
        | none => (.error .io, { s with tree := written })
        | some moved => (.ok (), { s with tree := moved }) := by
  rw [save, run_bind, run_writeText]
  cases s.tree.writeText? (savePath path) c.toText with
  | none => rfl
  | some written =>
    change Session.run (Workspace.moveFile (savePath path) path >>= _) { s with tree := written } = _
    rw [run_bind, run_moveFile]
    dsimp only
    cases written.moveFile? (savePath path) path <;> rfl

/-- A catalog that was saved stands in its file. -/
theorem readText?_of_save {c : SignatureCatalog}
    (h : Session.run (c.save path : ExceptT Error (StateM Session) Unit) s = (.ok (), t)) :
    t.tree.readText? path = some c.toText := by
  rw [run_save] at h
  cases hwrite : s.tree.writeText? (savePath path) c.toText with
  | none =>
    rw [hwrite] at h
    cases h
  | some written =>
    rw [hwrite] at h
    dsimp only at h
    cases hmove : written.moveFile? (savePath path) path with
    | none =>
      rw [hmove] at h
      cases h
    | some moved =>
      rw [hmove] at h
      obtain ⟨-, rfl⟩ := Prod.mk.inj h
      rw [(FileTree.moveFile?_eq_some hmove).2, (FileTree.writeText?_eq_some hwrite).2]

variable {text : String} {c : SignatureCatalog}

theorem run_load_eq_ok (h : s.tree.readText? path = some text) (hc : ofText? text = some c) :
    Session.run (load path : ExceptT Error (StateM Session) SignatureCatalog) s = (.ok c, s) := by
  rw [load, run_bind_eq_ok]
  refine ⟨some text, s, congrArg (fun x => (Except.ok x, s)) h, ?_⟩
  dsimp only
  rw [hc]
  rfl

theorem run_loadOrEmpty_eq_ok (h : s.tree.readText? path = some text)
    (hc : ofText? text = some c) :
    Session.run (loadOrEmpty path : ExceptT ε (StateM Session) SignatureCatalog) s =
      (.ok c, s) := by
  rw [loadOrEmpty, run_load, bind_assoc, run_bind_eq_ok]
  refine ⟨some text, s, congrArg (fun x => (Except.ok x, s)) h, ?_⟩
  have hcatalog : ofRead (some text) = .ok c := by
    rw [ofRead, hc]
  rw [pure_bind, hcatalog]
  rfl

end SignatureCatalog

namespace Command

theorem run_nextGeneration_absent (h : s.tree.isPresent path = false) :
    Session.run (nextGeneration path : ExceptT ε (StateM Session) UInt64) s = (.ok 0, s) := by
  rw [nextGeneration, run_bind_eq_ok]
  exact ⟨false, s, congrArg (fun b => (Except.ok b, s)) h, rfl⟩

/-- The generation after the one of the catalog in a file. -/
theorem run_nextGeneration {text : String} {c : SignatureCatalog}
    (h : s.tree.readText? path = some text) (hc : SignatureCatalog.ofText? text = some c) :
    Session.run (nextGeneration path : ExceptT ε (StateM Session) UInt64) s =
      (.ok (c.generation + 1), s) := by
  have hpresent := FileTree.isPresent_of_readText? h
  rw [nextGeneration, run_bind_eq_ok]
  refine ⟨true, s, congrArg (fun b => (Except.ok b, s)) hpresent, ?_⟩
  exact run_bind_eq_ok.2 ⟨c, s, SignatureCatalog.run_loadOrEmpty_eq_ok h hc, rfl⟩

end Command

end BytecodeMutation
