import BytecodeMutation.FileTree.Basic

/-! Changes of a file tree. Writing and moving files leaves all directories as they are, so that
every path still leads to the same place afterwards; a file that was written and moved is found
where it was moved to. -/

namespace BytecodeMutation.FileTree

variable {t t' : FileTree} {place other : Place} {node : FileNode} {path text : String}

/-! ### Nodes -/

theorem lookup_cons_node (p : Place) (n : FileNode) (nodes : List (Place × FileNode)) :
    ((p, n) :: nodes).lookup other = if other = p then some n else nodes.lookup other := by
  rw [List.lookup_cons]
  by_cases h : other = p
  · rw [if_pos h, beq_iff_eq.2 h]
  · rw [if_neg h, beq_eq_false_iff_ne.2 h]

theorem lookup_map_at (nodes : List (Place × FileNode)) :
    (nodes.map fun (p, n) => if p = place then (p, node) else (p, n)).lookup other =
      if other = place then (nodes.lookup other).map fun _ => node else nodes.lookup other := by
  induction nodes with
  | nil => simp
  | cons m nodes ih =>
    obtain ⟨p, n⟩ := m
    rw [List.map_cons, lookup_cons_node p n]
    dsimp only
    by_cases hp : p = place
    · subst hp
      rw [if_pos rfl, lookup_cons_node, ih]
      by_cases hother : other = p <;> simp [hother]
    · rw [if_neg hp, lookup_cons_node, ih]
      by_cases hother : other = p <;> simp [hother, hp]

theorem lookup_filter_ne (nodes : List (Place × FileNode)) :
    (nodes.filter fun (p, _) => p ≠ place).lookup other =
      if other = place then none else nodes.lookup other := by
  induction nodes with
  | nil => simp
  | cons m nodes ih =>
    obtain ⟨p, n⟩ := m
    rw [lookup_cons_node]
    by_cases hp : p = place
    · rw [List.filter_cons_of_neg (by simpa using hp), ih]
      by_cases hother : other = place <;> simp [hother, hp]
    · rw [List.filter_cons_of_pos (by simpa using hp), lookup_cons_node, ih]
      by_cases hother : other = p <;> simp [hother, hp]

theorem node?_put (h : place ≠ []) :
    (t.put place node).node? other = if other = place then some node else t.node? other := by
  by_cases hroot : other = []
  · subst hroot
    rw [if_neg (Ne.symm h)]
    rfl
  · have hempty : other.isEmpty = false := by simpa using hroot
    simp only [node?, put, hempty, Bool.false_eq_true, if_false]
    split
    · rename_i hsome
      rw [lookup_map_at]
      by_cases hother : other = place
      · obtain ⟨n, hn⟩ := Option.isSome_iff_exists.1 hsome
        rw [if_pos hother, if_pos hother, hother, hn, Option.map_some]
      · rw [if_neg hother, if_neg hother]
    · rename_i hnone
      rw [List.lookup_append]
      by_cases hother : other = place
      · have hlookup := Option.not_isSome_iff_eq_none.1 hnone
        simp [hother, hlookup]
      · simp [lookup_cons_node, hother]

theorem node?_remove (h : place ≠ []) :
    (t.remove place).node? other = if other = place then none else t.node? other := by
  by_cases hroot : other = []
  · subst hroot
    rw [if_neg (Ne.symm h)]
    rfl
  · have hempty : other.isEmpty = false := by simpa using hroot
    simp only [node?, remove, hempty, Bool.false_eq_true, if_false, lookup_filter_ne]

/-! ### Directories -/

/-- Whether two trees have the same directories, and the same one is worked in. -/
structure SameDirectories (t t' : FileTree) : Prop where
  workingDirectory : t'.workingDirectory = t.workingDirectory
  isDirectory : ∀ place, t'.isDirectory place = t.isDirectory place

theorem SameDirectories.trans {t'' : FileTree} (h : SameDirectories t t')
    (h' : SameDirectories t' t'') : SameDirectories t t'' :=
  ⟨h'.workingDirectory.trans h.workingDirectory,
    fun place => (h'.isDirectory place).trans (h.isDirectory place)⟩

theorem SameDirectories.walk? (h : SameDirectories t t') (parts : List String) :
    ∀ place, t'.walk? place parts = t.walk? place parts := by
  induction parts with
  | nil => exact fun _ => rfl
  | cons part parts ih =>
    intro place
    rw [FileTree.walk?, FileTree.walk?, h.isDirectory, ih]

/-- Every path leads to the same place. -/
theorem SameDirectories.resolve? (h : SameDirectories t t') (path : String) :
    t'.resolve? path = t.resolve? path := by
  rw [FileTree.resolve?, FileTree.resolve?, h.workingDirectory, h.walk?]

theorem ne_nil_of_isDirectory (h : t.isDirectory place = false) : place ≠ [] := by
  rintro rfl
  cases h

/-- Only one place has changed, and no directory stands there before or afterwards. -/
theorem SameDirectories.of_change_at (hworking : t'.workingDirectory = t.workingDirectory)
    (hother : ∀ other, other ≠ place → t'.node? other = t.node? other)
    (h : t.isDirectory place = false) (h' : t'.isDirectory place = false) :
    SameDirectories t t' := by
  refine ⟨hworking, fun other => ?_⟩
  by_cases heq : other = place
  · rw [heq, h, h']
  · rw [FileTree.isDirectory, FileTree.isDirectory, hother other heq]

theorem sameDirectories_put (h : t.isDirectory place = false) :
    SameDirectories t (t.put place (.file text)) := by
  have hne := ne_nil_of_isDirectory h
  refine .of_change_at rfl (fun other hother => ?_) h ?_
  · rw [node?_put hne, if_neg hother]
  · rw [isDirectory, node?_put hne, if_pos rfl]
    rfl

theorem sameDirectories_remove (h : t.isDirectory place = false) :
    SameDirectories t (t.remove place) := by
  have hne := ne_nil_of_isDirectory h
  refine .of_change_at rfl (fun other hother => ?_) h ?_
  · rw [node?_remove hne, if_neg hother]
  · rw [isDirectory, node?_remove hne, if_pos rfl]
    rfl

/-! ### Files -/

theorem filePlace?_eq_some {place : Place} : t.filePlace? path = some place ↔
    t.resolve? path = some place ∧ t.isDirectory place = false := by
  rw [filePlace?, Option.filter_eq_some_iff, Bool.not_eq_true']

theorem readText?_put (hresolve : t.resolve? path = some place)
    (hplace : t.isDirectory place = false) :
    (t.put place (.file text)).readText? path = some text := by
  have hsame : SameDirectories t (t.put place (.file text)) := sameDirectories_put hplace
  rw [readText?, lookup?, hsame.resolve?, hresolve, Option.bind_some,
    node?_put (ne_nil_of_isDirectory hplace), if_pos rfl]

theorem writeText?_eq_some (h : t.writeText? path text = some t') :
    SameDirectories t t' ∧ t'.readText? path = some text := by
  obtain ⟨place, hplace, rfl⟩ := Option.map_eq_some_iff.1 h
  obtain ⟨hresolve, hfile⟩ := filePlace?_eq_some.1 hplace
  exact ⟨sameDirectories_put hfile, readText?_put hresolve hfile⟩

/-- A file that was moved has the text that it had. -/
theorem moveFile?_eq_some {source target : String} (h : t.moveFile? source target = some t') :
    SameDirectories t t' ∧ t'.readText? target = t.readText? source := by
  simp only [moveFile?, Option.bind_eq_bind, Option.bind_eq_some_iff] at h
  obtain ⟨sourcePlace, hsource, targetPlace, htarget, h⟩ := h
  obtain ⟨hresolve, hfile⟩ := filePlace?_eq_some.1 htarget
  split at h
  · rename_i text hnode
    obtain rfl := Option.some.inj h
    have hdirectory : t.isDirectory sourcePlace = false := by
      rw [isDirectory, hnode]
      rfl
    have hremoved := sameDirectories_remove hdirectory
    rw [← hremoved.resolve?] at hresolve
    rw [← hremoved.isDirectory] at hfile
    refine ⟨hremoved.trans (sameDirectories_put hfile), ?_⟩
    rw [readText?_put hresolve hfile, readText?, lookup?, hsource, Option.bind_some, hnode]
  · cases h

/-! ### Everything else -/

/-- Whether two trees differ at most in some places. -/
structure SameExceptAt (places : List Place) (t t' : FileTree) : Prop where
  workingDirectory : t'.workingDirectory = t.workingDirectory
  node? : ∀ place, place ∉ places → t'.node? place = t.node? place

theorem SameExceptAt.refl (places : List Place) (t : FileTree) : SameExceptAt places t t :=
  ⟨rfl, fun _ _ => rfl⟩

theorem sameExceptAt_put (h : place ≠ []) : SameExceptAt [place] t (t.put place node) := by
  refine ⟨rfl, fun other hother => ?_⟩
  rw [node?_put h, if_neg (List.ne_of_not_mem_cons hother)]

theorem SameDirectories.filePlace? (h : SameDirectories t t') (path : String) :
    t'.filePlace? path = t.filePlace? path := by
  simp only [FileTree.filePlace?, h.resolve?, h.isDirectory]

/-- A file that is written does not get in the way of a path that no file can be put at. -/
theorem lookup?_put_of_filePlace? (hplace : t.isDirectory place = false)
    (h : t.filePlace? path = none) :
    (t.put place (.file text)).lookup? path = t.lookup? path := by
  have hsame : SameDirectories t (t.put place (.file text)) := sameDirectories_put hplace
  rw [lookup?, lookup?, hsame.resolve?]
  cases hresolve : t.resolve? path with
  | none => rfl
  | some target =>
    have hdirectory : t.isDirectory target = true := by
      cases hfile : t.isDirectory target with
      | true => rfl
      | false => exact absurd (filePlace?_eq_some.2 ⟨hresolve, hfile⟩) (by simp [h])
    have hne : target ≠ place := by
      rintro rfl
      rw [hdirectory] at hplace
      cases hplace
    rw [Option.bind_some, Option.bind_some, node?_put (ne_nil_of_isDirectory hplace), if_neg hne]

/-- A file that has just been written is moved to where a file can be put. -/
theorem moveFile?_put {source target : String} (h : t.filePlace? source = some place) :
    (t.put place (.file text)).moveFile? source target =
      (t.filePlace? target).map fun targetPlace =>
        ((t.put place (.file text)).remove place).put targetPlace (.file text) := by
  obtain ⟨hresolve, hfile⟩ := filePlace?_eq_some.1 h
  have hsame : SameDirectories t (t.put place (.file text)) := sameDirectories_put hfile
  have hnode : (t.put place (.file text)).node? place = some (.file text) := by
    rw [node?_put (ne_nil_of_isDirectory hfile), if_pos rfl]
  simp only [moveFile?, hsame.resolve?, hsame.filePlace?, hresolve, Option.bind_eq_bind,
    Option.bind_some, hnode]
  cases t.filePlace? target <;> rfl

theorem node?_moved {target : Place} (hplace : place ≠ []) (htarget : target ≠ []) :
    (((t.put place node).remove place).put target node).node? other =
      if other = target then some node else if other = place then none else t.node? other := by
  rw [node?_put htarget, node?_remove hplace, node?_put hplace]
  by_cases h : other = place <;> simp [h]

theorem isPresent_of_readText? (h : t.readText? path = some text) : t.isPresent path = true := by
  unfold readText? at h
  split at h
  · rename_i hlookup
    rw [isPresent, hlookup]
    rfl
  · cases h

end BytecodeMutation.FileTree
