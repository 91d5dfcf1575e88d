import BytecodeMutation.Proofs.Operator.Names
import Mathlib.Data.List.Perm.Basic

/-! The choice of operators by names. A name stands for one operator or for a group of them, and a
choice is made up of what its names stand for: neither their order nor repetitions change it. The
first name that stands for nothing is refused. -/

namespace BytecodeMutation.Operator

variable {names : List String} {chosen : List Operator}

/-! ### What a name stands for -/

/-- The groups that an operator belongs to: that of all operators, that of its kind, and for an
arithmetic operator that of its type. -/
def groups : Operator → List String
  | substitution (.arithmetic _ t) => ["all", "aor", "aor_" ++ t.letter]
  | substitution (.bitwise _) => ["all", "obbn"]
  | substitution (.relational _) => ["all", "ror"]
  | substitution (.dynamicArithmetic _) | substitution (.dynamicRelational _) => ["all", "groovy"]
  | elimination _ => ["all", "aod"]
  | perturbation _ => ["all", "crcr"]
  | unaryStep .negateIncremented | unaryStep .negateLoaded | unaryStep .negateStored =>
    ["all", "abs"]
  | unaryStep _ => ["all", "uoi"]
  | redirection _ => ["all", "call"]

/-- A name stands for the operator that has it and for those of the group that has it. -/
def StandsFor (name : String) (o : Operator) : Prop := name = o.name ∨ name ∈ o.groups

/-- The names of operators and groups. -/
def IsName (name : String) : Prop :=
  (∃ o : Operator, name = o.name) ∨ ∃ g ∈ OperatorGroup.all, name = g.name

theorem holds_iff_mem_groups : ∀ g ∈ OperatorGroup.all, ∀ o ∈ all,
    g.holds o = true ↔ g.name ∈ o.groups := by
  decide +kernel

theorem groups_subset : ∀ o ∈ all, ∀ name ∈ o.groups,
    name ∈ OperatorGroup.all.map OperatorGroup.name := by
  decide +kernel

/-- The groups of an operator are those with a beginning of its name. -/
theorem mem_groups_iff {name : String} {o : Operator} : name ∈ o.groups ↔
    ∃ g ∈ OperatorGroup.all, name = g.name ∧ g.beginning.toList <+: o.name.toList := by
  constructor
  · intro h
    obtain ⟨g, hg, rfl⟩ := List.mem_map.1 (groups_subset o o.mem_all name h)
    have hholds := (holds_iff_mem_groups g hg o o.mem_all).2 h
    exact ⟨g, hg, rfl, List.isPrefixOf_iff_prefix.1 hholds⟩
  · rintro ⟨g, hg, rfl, hbeginning⟩
    exact (holds_iff_mem_groups g hg o o.mem_all).1 (List.isPrefixOf_iff_prefix.2 hbeginning)

theorem isSelectedBy_iff {name : String} {o : Operator} :
    o.isSelectedBy name = true ↔ StandsFor name o := by
  rw [isSelectedBy, StandsFor, mem_groups_iff, Bool.or_eq_true, beq_iff_eq, List.any_eq_true]
  refine or_congr_right (exists_congr fun g => and_congr_right fun _ => ?_)
  rw [Bool.and_eq_true, beq_iff_eq, OperatorGroup.holds, List.isPrefixOf_iff_prefix, eq_comm]

theorem isKnown_iff {name : String} : isKnown name = true ↔ IsName name := by
  rw [isKnown, IsName, Bool.or_eq_true, List.any_eq_true, List.any_eq_true]
  refine or_congr (exists_congr fun o => ?_) (exists_congr fun g => and_congr_right fun _ => ?_)
  · rw [beq_iff_eq, and_iff_right o.mem_all, eq_comm]
  · rw [beq_iff_eq, eq_comm]

/-! ### The choice -/

theorem isName_of_select (h : select names = .ok chosen) : ∀ n ∈ names, IsName n := by
  unfold select at h
  split at h
  · cases h
  · rename_i hnone
    intro n hn
    have hknown := List.find?_eq_none.1 hnone n hn
    rw [Bool.not_eq_true', Bool.not_eq_false] at hknown
    exact isKnown_iff.1 hknown

theorem select_of_isName (h : ∀ n ∈ names, IsName n) :
    select names = .ok (all.filter fun o => names.any o.isSelectedBy) := by
  have hnone : (names.find? fun name => !isKnown name) = none := by
    refine List.find?_eq_none.2 fun n hn => ?_
    rw [isKnown_iff.2 (h n hn)]
    decide
  rw [select, hnone]

/-- Of the names that are none the first one is refused. -/
theorem select_eq_error_iff {e : Error} : select names = .error e ↔
    ∃ before name after, names = before ++ name :: after ∧ (∀ n ∈ before, IsName n) ∧
      ¬ IsName name ∧ e = .unknownOperator name := by
  have hnot : ∀ name, (!isKnown name) = true ↔ ¬ IsName name := fun name => by
    rw [← isKnown_iff, Bool.not_eq_true', Bool.not_eq_true]
  constructor
  · intro h
    unfold select at h
    split at h
    · rename_i name hname
      obtain ⟨hnone, before, after, rfl, hbefore⟩ := List.find?_eq_some_iff_append.1 hname
      refine ⟨before, name, after, rfl, fun n hn => ?_, (hnot name).1 hnone, ?_⟩
      · exact isKnown_iff.1 (by simpa using hbefore n hn)
      · exact (Except.error.inj h).symm
    · cases h
  · rintro ⟨before, name, after, rfl, hbefore, hnone, rfl⟩
    have hfirst : ((before ++ name :: after).find? fun name => !isKnown name) = some name := by
      refine List.find?_eq_some_iff_append.2
        ⟨(hnot name).2 hnone, before, after, rfl, fun n hn => ?_⟩
      rw [isKnown_iff.2 (hbefore n hn)]
      decide
    rw [select, hfirst]

theorem mem_filter_isSelectedBy {o : Operator} :
    o ∈ all.filter (fun o => names.any o.isSelectedBy) ↔ ∃ n ∈ names, StandsFor n o := by
  rw [List.mem_filter, and_iff_right o.mem_all, List.any_eq_true]
  exact exists_congr fun n => and_congr_right fun _ => isSelectedBy_iff

/-- In the order of traversal, operators are determined by which of them there are. -/
theorem eq_of_sublist_all {os os' : List Operator} (hos : os.Sublist all) (hos' : os'.Sublist all)
    (h : ∀ o, o ∈ os ↔ o ∈ os') : os = os' :=
  (nodup_all.perm_iff_eq_of_sublist hos hos').1
    ((List.perm_ext_iff_of_nodup (nodup_all.sublist hos) (nodup_all.sublist hos')).2 h)

/-- Chosen are the operators that the names stand for, in the order of traversal. -/
theorem select_eq_ok_iff : select names = .ok chosen ↔ (∀ n ∈ names, IsName n) ∧
    chosen.Sublist all ∧ ∀ o, o ∈ chosen ↔ ∃ n ∈ names, StandsFor n o := by
  constructor
  · intro h
    have hnames := isName_of_select h
    obtain rfl := Except.ok.inj ((select_of_isName hnames).symm.trans h)
    exact ⟨hnames, List.filter_sublist, fun _ => mem_filter_isSelectedBy⟩
  · rintro ⟨hnames, hsublist, hmem⟩
    rw [select_of_isName hnames]
    refine congrArg Except.ok (eq_of_sublist_all List.filter_sublist hsublist fun o => ?_)
    rw [mem_filter_isSelectedBy, hmem]

/-- The order of the names and repetitions of them are without influence. -/
theorem select_congr {names' : List String} (h : ∀ n, n ∈ names ↔ n ∈ names')
    (hselect : select names = .ok chosen) : select names' = .ok chosen := by
  obtain ⟨hnames, hsublist, hmem⟩ := select_eq_ok_iff.1 hselect
  refine select_eq_ok_iff.2 ⟨fun n hn => hnames n ((h n).2 hn), hsublist, fun o => ?_⟩
  rw [hmem]
  exact exists_congr fun n => and_congr_left fun _ => h n

theorem select_append {names' : List String} {chosen' : List Operator}
    (h : select names = .ok chosen) (h' : select names' = .ok chosen') :
    ∃ both, select (names ++ names') = .ok both ∧ ∀ o, o ∈ both ↔ o ∈ chosen ∨ o ∈ chosen' := by
  obtain ⟨hnames, -, hmem⟩ := select_eq_ok_iff.1 h
  obtain ⟨hnames', -, hmem'⟩ := select_eq_ok_iff.1 h'
  have hall : ∀ n ∈ names ++ names', IsName n := fun n hn =>
    (List.mem_append.1 hn).elim (hnames n) (hnames' n)
  refine ⟨_, select_of_isName hall, fun o => ?_⟩
  rw [mem_filter_isSelectedBy, hmem, hmem', ← exists_or]
  exact exists_congr fun n => by rw [List.mem_append, or_and_right]

/-- A choice of operators by names is decided by the set of the names. The first one that is neither
that of an operator nor that of a group is refused. Otherwise those operators are chosen that are
listed or belong to a listed group, each of them once and in the order of traversal; to a group
belong the operators whose names have its beginning. So names in another order or with repetitions
make the same choice, and two lists together choose what either of them does. Enabled are the chosen
operators and nothing else. -/
theorem choice_is_decided_by_set_of_names (names : List String) :
    (∀ name (o : Operator), name ∈ o.groups ↔ ∃ g ∈ OperatorGroup.all, name = g.name ∧
      g.beginning.toList <+: o.name.toList) ∧
    (∀ e, select names = .error e ↔ ∃ before name after, names = before ++ name :: after ∧
      (∀ n ∈ before, IsName n) ∧ ¬ IsName name ∧ e = .unknownOperator name) ∧
    (∀ chosen, select names = .ok chosen ↔ (∀ n ∈ names, IsName n) ∧ chosen.Sublist all ∧
      chosen.Nodup ∧ ∀ o, o ∈ chosen ↔ ∃ n ∈ names, StandsFor n o) ∧
    ∀ chosen, select names = .ok chosen →
      (∀ names', (∀ n, n ∈ names ↔ n ∈ names') → select names' = .ok chosen) ∧
      (∀ name, isEnabled chosen name = true ↔ ∃ o ∈ chosen, name = o.name) ∧
      (∀ o, isEnabled chosen o.name = true ↔ o ∈ chosen) ∧
      ∀ names' chosen', select names' = .ok chosen' → ∃ both,
        select (names ++ names') = .ok both ∧ ∀ o, o ∈ both ↔ o ∈ chosen ∨ o ∈ chosen' := by
  refine ⟨fun _ _ => mem_groups_iff, fun _ => select_eq_error_iff, fun chosen => ?_,
    fun chosen h => ⟨fun _ hsame => select_congr hsame h, fun _ => isEnabled_iff,
      fun _ => isEnabled_name_iff, fun _ _ => select_append h⟩⟩
  rw [select_eq_ok_iff]
  constructor
  · rintro ⟨hnames, hsublist, hmem⟩
    exact ⟨hnames, hsublist, nodup_all.sublist hsublist, hmem⟩
  · rintro ⟨hnames, hsublist, -, hmem⟩
    exact ⟨hnames, hsublist, hmem⟩

/-- A group that is listed twice, an operator, and the group of the operator. -/
theorem overlapping_names_choose_once :
    let names := ["abs", "aor_iadd", "aor_i", "abs"]
    let chosen := ArithmeticOp.all.map (fun op => .substitution (.arithmetic op .int)) ++
      [.unaryStep .negateIncremented, .unaryStep .negateLoaded, .unaryStep .negateStored]
    select names = .ok chosen ∧ select ["aor_i", "abs", "aor_iadd"] = .ok chosen ∧
      isEnabled chosen "aor_i" = false := by
  intro names chosen
  have hchosen : select names = .ok chosen := by rfl
  obtain ⟨-, -, -, h⟩ := choice_is_decided_by_set_of_names names
  obtain ⟨hsame, henabled, -, -⟩ := h chosen hchosen
  refine ⟨hchosen, hsame _ fun n => ?_, ?_⟩
  · simp only [names, List.mem_cons, List.not_mem_nil, or_false]
    tauto
  · have hnone : ¬ ∃ o ∈ chosen, "aor_i" = o.name := by decide
    rwa [← henabled, Bool.not_eq_true] at hnone

end BytecodeMutation.Operator
