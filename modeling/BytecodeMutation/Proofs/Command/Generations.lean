import BytecodeMutation.Proofs.Command.Files

/-! Generations of a catalog. A build counts one generation on from the catalog in its file, takes
its records from its own units alone, and writes the catalog over the old one; what it reads back is
the generation only. So the catalogs that follow each other in a file are numbered from zero, and
each is made of what its own build was given. -/

namespace BytecodeMutation

open Session

/-- What one build of a catalog is given. -/
structure CatalogBuild where
  config : Config
  output : Option String
  units : List String

namespace CatalogBuild

def path (b : CatalogBuild) : String := Command.catalogPath b.config b.output

def action (b : CatalogBuild) : ExceptT Failure (StateM Session) Unit :=
  Command.runBuildCatalog b.config b.output b.units

variable {b : CatalogBuild} {generation : UInt64} {s t : Session} {path : String}

/-! ### One build -/

/-- Whether the next catalog in a file belongs to the generation. -/
def Continues (path : String) (generation : UInt64) (s : Session) : Prop :=
  Session.run (Command.nextGeneration path : ExceptT Failure (StateM Session) UInt64) s =
    (.ok generation, s)

theorem holdsUnits_of_mapM {paths : List String} {units : List ClassUnit} :
    ∀ {s t : Session}, Session.run (paths.mapM Command.loadUnit :
      ExceptT Failure (StateM Session) (List ClassUnit)) s = (.ok units, t) →
    t.tree = s.tree ∧ List.Forall₂ s.tree.HoldsUnit paths units := by
  induction paths generalizing units with
  | nil =>
    intro s t h
    obtain ⟨hunits, rfl⟩ := Prod.mk.inj h
    obtain rfl := Except.ok.inj hunits
    exact ⟨rfl, .nil⟩
  | cons path paths ih =>
    intro s t h
    rw [List.mapM_cons] at h
    obtain ⟨u, s₁, hu, h⟩ := run_bind_eq_ok.1 h
    obtain ⟨us, s₂, hus, h⟩ := run_bind_eq_ok.1 h
    obtain ⟨hunits, rfl⟩ := Prod.mk.inj h
    obtain rfl := Except.ok.inj hunits
    have htree := (Command.reads_loadUnit path).tree_eq hu
    obtain ⟨htree', hrest⟩ := ih hus
    rw [htree] at htree' hrest
    exact ⟨htree', .cons (ClassUnit.holdsUnit_of_ofFile (run_adapt_eq_ok.1 hu)) hrest⟩

/-- The catalog of a build, with the records of its own units, is what its file holds. -/
theorem readText?_of_action (hs : Continues b.path generation s)
    (h : Session.run b.action s = (.ok (), t)) :
    ∃ policy units, b.config.policy = .ok policy ∧
      List.Forall₂ s.tree.HoldsUnit b.units units ∧
      t.tree.readText? b.path = some (Command.scanUnits generation policy units).toText := by
  rw [action, Command.runBuildCatalog] at h
  obtain ⟨g, s₁, hg, h₁⟩ := run_bind_eq_ok.1 h
  obtain ⟨hcounted, rfl⟩ := Prod.mk.inj (hg.symm.trans hs)
  obtain rfl := Except.ok.inj hcounted
  obtain ⟨policy, s₂, hset, h₂⟩ := run_bind_eq_ok.1 h₁
  obtain ⟨hpolicy, rfl⟩ := Prod.mk.inj (run_adapt_eq_ok.1 hset)
  obtain ⟨units, s₃, hunits, h₃⟩ := run_bind_eq_ok.1 h₂
  obtain ⟨-, hholds⟩ := holdsUnits_of_mapM hunits
  obtain ⟨_, s₄, -, h₄⟩ := run_bind_eq_ok.1 h₃
  obtain ⟨_, s₅, hsave, h₅⟩ := run_bind_eq_ok.1 h₄
  have hsaved := SignatureCatalog.readText?_of_save (run_adapt_eq_ok.1 hsave)
  rw [← (Command.reads_info _).tree_eq h₅] at hsaved
  exact ⟨policy, units, hpolicy, hholds, hsaved⟩

theorem descriptorsRead_of_holds {tree : FileTree} {paths : List String} {units : List ClassUnit}
    (h : List.Forall₂ tree.HoldsUnit paths units) : ∀ u ∈ units, u.DescriptorsRead := by
  induction h with
  | nil => exact nofun
  | cons hu _ ih =>
    obtain ⟨text, -, hread⟩ := hu
    exact List.forall_mem_cons.2 ⟨ClassUnit.descriptorsRead_of_ofText? hread, ih⟩

/-- A build leaves the catalog of its generation, with the records of its own units, and the next
build continues from there. -/
theorem action_leaves (hs : Continues b.path generation s)
    (h : Session.run b.action s = (.ok (), t)) :
    (∃ policy units, b.config.policy = .ok policy ∧
      List.Forall₂ s.tree.HoldsUnit b.units units ∧
      Session.run (SignatureCatalog.load b.path : ExceptT Error (StateM Session) SignatureCatalog)
        t = (.ok ⟨generation, SignatureCatalog.recordsOf policy units⟩, t)) ∧
    Continues b.path (generation + 1) t := by
  obtain ⟨policy, units, hpolicy, hunits, htext⟩ := readText?_of_action hs h
  have hdescriptors : (Command.scanUnits generation policy units).DescriptorsRead :=
    SignatureCatalog.descriptorsRead_scanUnits (descriptorsRead_of_holds hunits)
  have hread := SignatureCatalog.ofText?_toText hdescriptors
  rw [SignatureCatalog.scanUnits_eq] at htext hread
  exact ⟨⟨policy, units, hpolicy, hunits, SignatureCatalog.run_load_eq_ok htext hread⟩,
    Command.run_nextGeneration htext hread⟩

/-! ### Builds in a row -/

theorem generations_from {builds : List CatalogBuild} :
    ∀ {generation : UInt64} {s : Session}, Continues path generation s →
      (∀ b ∈ builds, b.path = path) → Session.run (builds.forM action) s = (.ok (), t) →
      ∀ k b, builds[k]? = some b → ∃ before after policy units,
        Session.run ((builds.take k).forM action) s = (.ok (), before) ∧
        Session.run b.action before = (.ok (), after) ∧ b.config.policy = .ok policy ∧
        List.Forall₂ before.tree.HoldsUnit b.units units ∧
        Session.run (SignatureCatalog.load path : ExceptT Error (StateM Session) SignatureCatalog)
          after = (.ok ⟨generation + UInt64.ofNat k, SignatureCatalog.recordsOf policy units⟩,
            after) := by
  induction builds with
  | nil => exact fun _ _ _ k b hb => by cases hb
  | cons first builds ih =>
    intro generation s hs hpath h k b hb
    obtain ⟨_, s₁, hfirst, hrest⟩ := run_bind_eq_ok.1 h
    obtain rfl := hpath first List.mem_cons_self
    obtain ⟨⟨policy, units, hpolicy, hunits, hload⟩, hnext⟩ := action_leaves hs hfirst
    cases k with
    | zero =>
      obtain rfl := Option.some.inj hb
      exact ⟨s, s₁, policy, units, rfl, hfirst, hpolicy, hunits, by simpa using hload⟩
    | succ k =>
      obtain ⟨before, after, policy', units', hbefore, hafter⟩ :=
        ih hnext (fun b hb => hpath b (List.mem_cons_of_mem _ hb)) hrest k b hb
      refine ⟨before, after, policy', units', ?_, ?_⟩
      · exact run_bind_eq_ok.2 ⟨(), s₁, hfirst, hbefore⟩
      · have hcount : generation + UInt64.ofNat (k + 1) = generation + 1 + UInt64.ofNat k := by
          rw [UInt64.ofNat_add, UInt64.add_comm (UInt64.ofNat k), ← UInt64.add_assoc]
          rfl
        rwa [hcount]

end CatalogBuild

/-- The catalogs that are built one after the other in a new file are numbered from zero, in numbers
of 64 bits, and each has the records of its own units and no others. -/
theorem catalog_generations {path : String} {builds : List CatalogBuild} {s t : Session}
    (hpath : ∀ b ∈ builds, Command.catalogPath b.config b.output = path)
    (habsent : s.tree.isPresent path = false)
    (h : Session.run (builds.forM CatalogBuild.action) s = (.ok (), t)) :
    ∀ k b, builds[k]? = some b → ∃ before after policy units,
      Session.run ((builds.take k).forM CatalogBuild.action) s = (.ok (), before) ∧
      Session.run b.action before = (.ok (), after) ∧ b.config.policy = .ok policy ∧
      List.Forall₂ before.tree.HoldsUnit b.units units ∧
      Session.run (SignatureCatalog.load path : ExceptT Error (StateM Session) SignatureCatalog)
        after = (.ok ⟨UInt64.ofNat k, SignatureCatalog.recordsOf policy units⟩, after) := by
  have hall := CatalogBuild.generations_from (Command.run_nextGeneration_absent habsent) hpath h
  simpa using hall

/-! ### Two builds -/

namespace Sample

/-- Two units with a method each, and a constructor in one of them. -/
def shelf : Session :=
  .start ⟨[], [(["A"], .file "[\"A\",null,[[\"f\",\"()V\",true,0,0,[]]]]"),
    (["B"], .file "[\"B\",null,[[\"<init>\",\"()V\",false,1,1,[]],[\"f\",\"()V\",true,0,0,[]]]]")]⟩
    false

def firstUnit : ClassUnit := ⟨"A", none, [⟨"f", ⟨[], .void⟩, true, 0, 0, []⟩]⟩

def secondUnit : ClassUnit :=
  ⟨"B", none, [⟨"<init>", ⟨[], .void⟩, false, 1, 1, []⟩, ⟨"f", ⟨[], .void⟩, true, 0, 0, []⟩]⟩

/-- A build from both units that admits one of the classes. -/
def narrowed : CatalogBuild :=
  ⟨{ Config.default with allowedClasses := some ["B"] }, some "c", ["A", "B"]⟩

/-- All of the first unit, then what is admitted of both. -/
def catalogBuilds : List CatalogBuild := [⟨.default, some "c", ["A"]⟩, narrowed]

/-- The first build leaves both units as they are. -/
theorem units_after_first_build {before : Session} {units : List ClassUnit}
    (hbefore : Session.run ((catalogBuilds.take 1).forM CatalogBuild.action) shelf =
      (.ok (), before))
    (h : List.Forall₂ before.tree.HoldsUnit ["A", "B"] units) :
    units = [firstUnit, secondUnit] := by
  have hleft : (Session.run ((catalogBuilds.take 1).forM CatalogBuild.action) shelf).2 = before :=
    congrArg Prod.snd hbefore
  obtain ⟨hfirst, hsecond⟩ : (before.tree.readText? "A").bind ClassUnit.ofText? = some firstUnit ∧
      (before.tree.readText? "B").bind ClassUnit.ofText? = some secondUnit := by
    rw [← hleft]
    decide +kernel
  match h with
  | .cons ⟨textA, htextA, hA⟩ (.cons ⟨textB, htextB, hB⟩ .nil) =>
    rw [htextA, Option.bind_some, hA] at hfirst
    rw [htextB, Option.bind_some, hB] at hsecond
    rw [Option.some.inj hfirst, Option.some.inj hsecond]

theorem recordsOf_narrowed {policy : MutationPolicy} (h : narrowed.config.policy = .ok policy) :
    SignatureCatalog.recordsOf policy [firstUnit, secondUnit] =
      [⟨"B", "f", ⟨[], .void⟩, true⟩] := by
  have hadmitted : narrowed.config.policy.toOption.map (fun policy =>
      (policy.admitsClass "A", policy.admitsClass "B")) = some (false, true) := by decide +kernel
  rw [h] at hadmitted
  obtain ⟨hfirst, hsecond⟩ := Prod.mk.inj (Option.some.inj hadmitted)
  have hunits : [firstUnit, secondUnit].filter (fun u => policy.admitsClass u.name) =
      [secondUnit] := by
    rw [List.filter_cons_of_neg (by simp [firstUnit, hfirst]),
      List.filter_cons_of_pos (by exact hsecond)]
    rfl
  rw [SignatureCatalog.recordsOf, hunits]
  decide +kernel

end Sample

open Sample in
/-- The second catalog has the method of the class that was admitted, and not the one that the first
catalog has. -/
theorem second_catalog_has_own_records : ∃ before after,
    Session.run ((catalogBuilds.take 1).forM CatalogBuild.action) shelf = (.ok (), before) ∧
      Session.run narrowed.action before = (.ok (), after) ∧
      List.Forall₂ before.tree.HoldsUnit ["A", "B"] [firstUnit, secondUnit] ∧
      Session.run (SignatureCatalog.load "c" :
        ExceptT Error (StateM Session) SignatureCatalog) after =
          (.ok ⟨1, [⟨"B", "f", ⟨[], .void⟩, true⟩]⟩, after) := by
  have hpath : ∀ b ∈ catalogBuilds, Command.catalogPath b.config b.output = "c" := by
    simp [catalogBuilds, narrowed, Command.catalogPath]
  have habsent : shelf.tree.isPresent "c" = false := by decide +kernel
  obtain ⟨t, hrun⟩ := exists_session (toOption_eq_some.1 (by decide +kernel :
    (Session.run (catalogBuilds.forM CatalogBuild.action) shelf).1.toOption = some ()))
  obtain ⟨before, after, policy, units, hbefore, hafter, hpolicy, hunits, hload⟩ :=
    catalog_generations hpath habsent hrun 1 narrowed rfl
  obtain rfl := units_after_first_build hbefore hunits
  rw [recordsOf_narrowed hpolicy] at hload
  exact ⟨before, after, hbefore, hafter, hunits, hload⟩

end BytecodeMutation
