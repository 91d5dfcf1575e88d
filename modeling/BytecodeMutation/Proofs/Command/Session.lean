import BytecodeMutation.Command.Run

/-! Commands in a session. Most of what a command does only reads: the files decide the answer, and
all that is left behind are log records. So two commands that begin in the same way come to the same
answers, whatever was logged or printed before them. -/

namespace BytecodeMutation

namespace Session

variable {ε ε' α β : Type}

/-- What an action comes to in a session. -/
def run (x : ExceptT ε (StateM Session) α) (s : Session) : Except ε α × Session :=
  StateT.run (ExceptT.run x) s

theorem run_pure (a : α) (s : Session) :
    run (pure a : ExceptT ε (StateM Session) α) s = (.ok a, s) := rfl

theorem run_bind (x : ExceptT ε (StateM Session) α) (f : α → ExceptT ε (StateM Session) β)
    (s : Session) : run (x >>= f) s =
      match run x s with
      | (.ok a, t) => run (f a) t
      | (.error e, t) => (.error e, t) := by
  change (match StateT.run (ExceptT.run x) s with
    | (a, t) => StateT.run (ExceptT.bindCont f a) t) = _
  unfold run
  rcases StateT.run (ExceptT.run x) s with ⟨a | a, t⟩ <;> rfl

theorem run_bind_eq_ok {x : ExceptT ε (StateM Session) α}
    {f : α → ExceptT ε (StateM Session) β} {s t : Session} {b : β} :
    run (x >>= f) s = (.ok b, t) ↔
      ∃ a u, run x s = (.ok a, u) ∧ run (f a) u = (.ok b, t) := by
  rw [run_bind]
  rcases run x s with ⟨e | a, u⟩
  · simp
  · refine ⟨fun h => ⟨a, u, rfl, h⟩, fun ⟨a', u', heq, h⟩ => ?_⟩
    obtain ⟨ha, rfl⟩ := Prod.mk.inj heq
    rwa [Except.ok.inj ha]

theorem run_adapt (g : ε → ε') (x : ExceptT ε (StateM Session) α) (s : Session) :
    run (x.adapt g) s = ((run x s).1.mapError g, (run x s).2) := rfl

theorem run_adapt_eq_ok {g : ε → ε'} {x : ExceptT ε (StateM Session) α} {s t : Session} {a : α} :
    run (x.adapt g) s = (.ok a, t) ↔ run x s = (.ok a, t) := by
  rw [run_adapt]
  rcases run x s with ⟨e | b, u⟩
  · change (Except.error (g e), u) = (Except.ok a, t) ↔ _
    simp
  · change (Except.ok b, u) = (Except.ok a, t) ↔ _
    simp

/-! ### Records and prints -/

/-- The session after more log records. -/
def logged (s : Session) (log : Log) : Session := { s with log := s.log ++ log }

/-- The session after more was printed. -/
def shown (s : Session) (text : String) : Session := { s with printed := s.printed ++ text }

@[simp] theorem logged_nil (s : Session) : s.logged [] = s := by
  rw [logged, List.append_nil]

@[simp] theorem logged_logged (s : Session) (log log' : Log) :
    (s.logged log).logged log' = s.logged (log ++ log') := by
  rw [logged, logged, logged, List.append_assoc]

@[simp] theorem shown_empty (s : Session) : s.shown "" = s := by
  rw [shown, String.append_empty]

@[simp] theorem shown_shown (s : Session) (text text' : String) :
    (s.shown text).shown text' = s.shown (text ++ text') := by
  rw [shown, shown, shown, String.append_assoc]

/-! ### Reading -/

/-- An action that only reads: the files decide its answer and its log records. -/
def Reads (x : ExceptT ε (StateM Session) α) : Prop :=
  ∀ tree, ∃ answer log, ∀ s : Session, s.tree = tree → run x s = (answer, s.logged log)

theorem Reads.of_run {x : ExceptT ε (StateM Session) α} (answer : FileTree → Except ε α)
    (log : FileTree → Log) (h : ∀ s, run x s = (answer s.tree, s.logged (log s.tree))) : Reads x :=
  fun tree => ⟨answer tree, log tree, fun s hs => hs ▸ h s⟩

theorem reads_pure (a : α) : Reads (pure a : ExceptT ε (StateM Session) α) :=
  .of_run (fun _ => .ok a) (fun _ => []) fun s => by rw [logged_nil, run_pure]

theorem reads_ofExcept (result : Except ε α) :
    Reads (ExceptT.mk (pure result) : ExceptT ε (StateM Session) α) :=
  .of_run (fun _ => result) (fun _ => []) fun s => by rw [logged_nil]; rfl

theorem reads_throw (e : ε) : Reads (throw e : ExceptT ε (StateM Session) α) :=
  reads_ofExcept (.error e)

theorem reads_log (records : Log) :
    Reads (Workspace.log records : ExceptT ε (StateM Session) Unit) :=
  .of_run (fun _ => .ok ()) (fun _ => records) fun _ => rfl

theorem reads_isFile (path : String) :
    Reads (Workspace.isFile path : ExceptT ε (StateM Session) Bool) :=
  .of_run (fun tree => .ok (tree.isFile path)) (fun _ => []) fun s => by rw [logged_nil]; rfl

theorem reads_readText? (path : String) :
    Reads (Workspace.readText? path : ExceptT ε (StateM Session) (Option String)) :=
  .of_run (fun tree => .ok (tree.readText? path)) (fun _ => []) fun s => by rw [logged_nil]; rfl

theorem Reads.bind {x : ExceptT ε (StateM Session) α} {f : α → ExceptT ε (StateM Session) β}
    (hx : Reads x) (hf : ∀ a, Reads (f a)) : Reads (x >>= f) := by
  intro tree
  obtain ⟨answer, log, hanswer⟩ := hx tree
  cases answer with
  | error e => exact ⟨.error e, log, fun s hs => by rw [run_bind, hanswer s hs]⟩
  | ok a =>
    obtain ⟨answer', log', hanswer'⟩ := hf a tree
    refine ⟨answer', log ++ log', fun s hs => ?_⟩
    rw [run_bind, hanswer s hs, ← logged_logged]
    exact hanswer' (s.logged log) hs

theorem Reads.adapt {x : ExceptT ε (StateM Session) α} (hx : Reads x) (g : ε → ε') :
    Reads (x.adapt g) := by
  intro tree
  obtain ⟨answer, log, hanswer⟩ := hx tree
  exact ⟨answer.mapError g, log, fun s hs => by rw [run_adapt, hanswer s hs]⟩

/-- What was read once is read again, as long as the files are the same. -/
theorem Reads.again {x : ExceptT ε (StateM Session) α} (hx : Reads x) {s t : Session} {a : α}
    (h : run x s = (.ok a, t)) :
    ∃ log, ∀ r : Session, r.tree = s.tree → run x r = (.ok a, r.logged log) := by
  obtain ⟨answer, log, hanswer⟩ := hx s.tree
  obtain rfl : answer = .ok a := congrArg Prod.fst ((hanswer s rfl).symm.trans h)
  exact ⟨log, hanswer⟩

end Session

open Session

/-! ### Files -/

/-- The text of a file that is there. -/
theorem reads_text {ε α : Type} (path : String) (missing unreadable : ε)
    {k : String → ExceptT ε (StateM Session) α} (hk : ∀ text, Reads (k text)) :
    Reads (do
      if !(← Workspace.isFile path) then throw missing
      match ← Workspace.readText? path with
      | none => throw unreadable
      | some text => k text) := by
  refine (reads_isFile path).bind fun present => ?_
  have hread : Reads (do
      match ← Workspace.readText? path with
      | none => throw unreadable
      | some text => k text) := by
    refine (reads_readText? path).bind fun text? => ?_
    cases text? with
    | none => exact reads_throw _
    | some text => exact hk text
  cases present with
  | true => exact hread
  | false => exact (reads_throw _).bind fun _ => hread

theorem ClassUnit.reads_ofFile (path : String) :
    Reads (ClassUnit.ofFile path : ExceptT Error (StateM Session) ClassUnit) := by
  refine reads_text path _ _ fun text => ?_
  cases ofText? text with
  | none => exact reads_throw _
  | some u => exact reads_pure u

theorem Config.reads_ofFile (path : String) :
    Reads (Config.ofFile path : ExceptT Error (StateM Session) Config) :=
  reads_text path _ _ fun _ => reads_ofExcept _

/-- The catalog in a text, if the file could be read. -/
def SignatureCatalog.ofRead (text? : Option String) : Except Error SignatureCatalog :=
  match text? with
  | none => .error .io
  | some text =>
    match ofText? text with
    | none => .error .serialization
    | some c => .ok c

theorem SignatureCatalog.run_load {ε : Type} (path : String) :
    (load path : ExceptT Error (ExceptT ε (StateM Session)) SignatureCatalog).run =
      Workspace.readText? path >>= fun text? => pure (ofRead text?) := by
  refine (ExceptT.run_bind_lift _ _).trans (bind_congr fun text? => ?_)
  cases text? with
  | none => rfl
  | some text =>
    dsimp only [ofRead]
    cases ofText? text <;> rfl

theorem SignatureCatalog.reads_loadOrEmpty {ε : Type} (path : String) :
    Reads (loadOrEmpty path : ExceptT ε (StateM Session) SignatureCatalog) := by
  unfold loadOrEmpty
  rw [run_load]
  refine Reads.bind ((reads_readText? path).bind fun text? => reads_pure _) fun result => ?_
  cases result with
  | ok c => exact reads_pure c
  | error e => exact (reads_log _).bind fun _ => reads_pure empty

theorem MutationEngine.reads_ofConfig (config : Config) :
    Reads (ofConfig config : ExceptT Error (StateM Session) MutationEngine) := by
  unfold ofConfig
  cases config.catalogPath with
  | none => exact (reads_pure none).bind fun _ => reads_ofExcept _
  | some path =>
    exact (SignatureCatalog.reads_loadOrEmpty path).bind fun c =>
      (reads_pure (some c)).bind fun _ => reads_ofExcept _

namespace Command

theorem reads_info (text : String) : Reads (info text : ExceptT Failure (StateM Session) Unit) :=
  reads_log _

theorem reads_loadConfig (path? : Option String) :
    Reads (loadConfig path? : ExceptT Failure (StateM Session) Config) := by
  cases path? with
  | some path => exact (reads_info _).bind fun _ => (Config.reads_ofFile path).adapt _
  | none =>
    refine (reads_isFile configFile).bind fun present => ?_
    cases present with
    | true => exact (reads_info _).bind fun _ => (Config.reads_ofFile configFile).adapt _
    | false => exact (reads_info _).bind fun _ => reads_pure _

theorem reads_loadUnit (path : String) :
    Reads (loadUnit path : ExceptT Failure (StateM Session) ClassUnit) :=
  (ClassUnit.reads_ofFile path).adapt _

end Command

end BytecodeMutation
