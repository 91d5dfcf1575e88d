import BytecodeMutation.Proofs.Operator.Candidates
import BytecodeMutation.Proofs.Operator.Names

/-! Families of instructions that differ in their operator only. A substitution exchanges the
members of its families for one another: for a member, the substitutions of its family offer every
other member once, and no substitution offers anything for an instruction of no family. -/

namespace BytecodeMutation

/-! ### Names of dynamic operations -/

theorem ArithmeticOp.ofDynamicName?_eq_some {op : ArithmeticOp} {name : String} :
    ofDynamicName? name = some op ↔ op.dynamicName = name := by
  constructor
  · intro h
    exact beq_iff_eq.1 (List.find?_some (p := fun op : ArithmeticOp => op.dynamicName == name) h)
  · rintro rfl
    cases op <;> rfl

theorem ArithmeticOp.dynamicName_injective : Function.Injective dynamicName := fun _ _ h =>
  Option.some.inj ((ofDynamicName?_eq_some.2 h).symm.trans (ofDynamicName?_eq_some.2 rfl))

theorem Condition.find?_dynamicName_eq_some {c : Condition} {name : String} :
    (all.find? fun c => c.dynamicName == name) = some c ↔ c.dynamicName = name := by
  constructor
  · intro h
    exact beq_iff_eq.1 (List.find?_some (p := fun c : Condition => c.dynamicName == name) h)
  · rintro rfl
    cases c <;> rfl

theorem Condition.dynamicName_injective : Function.Injective dynamicName := fun _ _ h =>
  Option.some.inj
    ((find?_dynamicName_eq_some.2 h).symm.trans (find?_dynamicName_eq_some.2 rfl))

theorem MethodRef.dynamicCondition?_eq_some {m : MethodRef} {c : Condition} :
    m.dynamicCondition? = some c ↔ m.owner = groovyAdapter ∧ c.dynamicName = m.name := by
  unfold dynamicCondition?
  by_cases howner : m.owner = groovyAdapter
  · simp [howner, Condition.find?_dynamicName_eq_some]
  · simp [howner]

/-! ### Families -/

inductive SubstitutionFamily where
  /-- The arithmetic operations on one type. -/
  | arithmetic (t : NumericType)
  /-- The bitwise operations on one type. -/
  | bitwise (t : IntegerType)
  /-- The branches to a label by a comparison with zero. -/
  | ifZero (label : Label)
  /-- The branches to a label by a comparison of two ints. -/
  | ifCompare (label : Label)
  /-- The loads of the name of a dynamic operator. -/
  | dynamicArithmetic
  /-- The calls of the comparison helpers, by one kind of call and with one descriptor. -/
  | dynamicRelational (kind : CallKind) (descriptor : MethodDescriptor)

namespace SubstitutionFamily

/-- The names of the dynamic operators. -/
def operatorNames : List (ArithmeticOp × String) :=
  [(.add, "plus"), (.sub, "minus"), (.mul, "multiply"), (.div, "div"), (.rem, "mod")]

/-- The names of the comparison helpers. -/
def helperNames : List (Condition × String) :=
  [(.eq, "compareEqual"), (.ne, "compareNotEqual"), (.lt, "compareLessThan"),
    (.ge, "compareGreaterThanEqual"), (.gt, "compareGreaterThan"), (.le, "compareLessThanEqual")]

/-- The members of a family, each with the substitution that puts it in the place of the others. -/
def rows : SubstitutionFamily → List (Substitution × Instruction)
  | arithmetic t => ArithmeticOp.all.map fun op => (.arithmetic op t, .arith op t)
  | bitwise t => BitwiseOp.all.map fun op => (.bitwise op, .bitwise op t)
  | ifZero label => Condition.all.map fun c => (.relational c, .ifZero c label)
  | ifCompare label => Condition.all.map fun c => (.relational c, .ifCompare c label)
  | dynamicArithmetic => operatorNames.map fun (op, name) =>
      (.dynamicArithmetic op, .loadConst (.string name))
  | dynamicRelational kind descriptor => helperNames.map fun (c, name) =>
      (.dynamicRelational c, .invoke
        ⟨kind, "org/codehaus/groovy/runtime/ScriptBytecodeAdapter", name, descriptor⟩)

def substitutions (F : SubstitutionFamily) : List Substitution := F.rows.map Prod.fst

def members (F : SubstitutionFamily) : List Instruction := F.rows.map Prod.snd

/-! ### Rows -/

/-- What a row of a family holds. -/
inductive IsRow : SubstitutionFamily → Substitution → Instruction → Prop
  | arithmetic (op : ArithmeticOp) (t : NumericType) :
    IsRow (.arithmetic t) (.arithmetic op t) (.arith op t)
  | bitwise (op : BitwiseOp) (t : IntegerType) : IsRow (.bitwise t) (.bitwise op) (.bitwise op t)
  | ifZero (c : Condition) (label : Label) :
    IsRow (.ifZero label) (.relational c) (.ifZero c label)
  | ifCompare (c : Condition) (label : Label) :
    IsRow (.ifCompare label) (.relational c) (.ifCompare c label)
  | dynamicArithmetic (op : ArithmeticOp) {name : String} (hname : op.dynamicName = name) :
    IsRow .dynamicArithmetic (.dynamicArithmetic op) (.loadConst (.string name))
  | dynamicRelational (c : Condition) {kind : CallKind} {owner name : String}
      {descriptor : MethodDescriptor} (howner : owner = groovyAdapter)
      (hname : c.dynamicName = name) :
    IsRow (.dynamicRelational kind descriptor) (.dynamicRelational c)
      (.invoke ⟨kind, owner, name, descriptor⟩)

variable {F G : SubstitutionFamily} {s t : Substitution} {i j : Instruction}

theorem rows_dynamicArithmetic : dynamicArithmetic.rows = ArithmeticOp.all.map fun op =>
    (.dynamicArithmetic op, .loadConst (.string op.dynamicName)) := rfl

theorem rows_dynamicRelational (kind : CallKind) (descriptor : MethodDescriptor) :
    (dynamicRelational kind descriptor).rows = Condition.all.map fun c =>
      (.dynamicRelational c, .invoke ⟨kind, groovyAdapter, c.dynamicName, descriptor⟩) := rfl

theorem mem_rows_iff : (s, j) ∈ F.rows ↔ F.IsRow s j := by
  constructor
  · intro h
    cases F with
    | arithmetic | bitwise | ifZero | ifCompare =>
      obtain ⟨op, -, hrow⟩ := List.mem_map.1 h
      cases hrow
      constructor
    | dynamicArithmetic =>
      rw [rows_dynamicArithmetic] at h
      obtain ⟨op, -, hrow⟩ := List.mem_map.1 h
      cases hrow
      exact .dynamicArithmetic op rfl
    | dynamicRelational kind descriptor =>
      rw [rows_dynamicRelational] at h
      obtain ⟨c, -, hrow⟩ := List.mem_map.1 h
      cases hrow
      exact .dynamicRelational c rfl rfl
  · intro h
    cases h with
    | arithmetic op t => exact List.mem_map_of_mem op.mem_all
    | bitwise op t => exact List.mem_map_of_mem op.mem_all
    | ifZero c label => exact List.mem_map_of_mem c.mem_all
    | ifCompare c label => exact List.mem_map_of_mem c.mem_all
    | dynamicArithmetic op hname =>
      subst hname
      rw [rows_dynamicArithmetic]
      exact List.mem_map_of_mem op.mem_all
    | dynamicRelational c howner hname =>
      subst howner hname
      rw [rows_dynamicRelational]
      exact List.mem_map_of_mem c.mem_all

theorem mem_members_iff : i ∈ F.members ↔ ∃ s, F.IsRow s i := by
  simp [members, mem_rows_iff]

theorem mem_substitutions_iff : s ∈ F.substitutions ↔ ∃ j, F.IsRow s j := by
  simp [substitutions, mem_rows_iff]

/-- An instruction is in one family at most. -/
theorem eq_of_mem_members (hF : i ∈ F.members) (hG : i ∈ G.members) : G = F := by
  obtain ⟨s, hs⟩ := mem_members_iff.1 hF
  obtain ⟨t, ht⟩ := mem_members_iff.1 hG
  cases hs <;> cases ht <;> rfl

theorem stackEffect_eq (hi : i ∈ F.members) (hj : j ∈ F.members) :
    j.stackEffect = i.stackEffect := by
  obtain ⟨s, hs⟩ := mem_members_iff.1 hi
  obtain ⟨t, ht⟩ := mem_members_iff.1 hj
  cases hs <;> cases ht <;> rfl

theorem nodup_members (F : SubstitutionFamily) : F.members.Nodup := by
  cases F <;>
    simp [members, rows, ArithmeticOp.all, BitwiseOp.all, Condition.all, operatorNames, helperNames]

theorem IsRow.functional (hj : F.IsRow s i) (hk : F.IsRow s j) : i = j := by
  cases hj with
  | arithmetic | bitwise | ifZero | ifCompare =>
    cases hk
    rfl
  | dynamicArithmetic op hname =>
    cases hk with
    | dynamicArithmetic _ hname' => rw [← hname, hname']
  | dynamicRelational c howner hname =>
    cases hk with
    | dynamicRelational _ howner' hname' => rw [← hname, hname', howner, howner']

theorem IsRow.injective (hs : F.IsRow s i) (ht : F.IsRow t i) : s = t := by
  cases hs with
  | arithmetic | bitwise | ifZero | ifCompare =>
    cases ht
    rfl
  | dynamicArithmetic op hname =>
    cases ht with
    | dynamicArithmetic op' hname' =>
      rw [ArithmeticOp.dynamicName_injective (hname.trans hname'.symm)]
  | dynamicRelational c _ hname =>
    cases ht with
    | dynamicRelational c' _ hname' =>
      rw [Condition.dynamicName_injective (hname.trans hname'.symm)]

theorem IsRow.mem_members (h : F.IsRow s i) : i ∈ F.members := mem_members_iff.2 ⟨s, h⟩

/-- Substitutions offer members of their families for other members, and nothing else. -/
theorem substitute?_eq_some_iff_isRow :
    s.substitute? i = some j ↔
      ∃ F : SubstitutionFamily, F.IsRow s j ∧ i ∈ F.members ∧ i ≠ j := by
  rw [Substitution.substitute?_eq_some_iff]
  constructor
  · intro h
    cases h with
    | @arithmetic op target t hne =>
      exact ⟨_, .arithmetic target t, (IsRow.arithmetic op t).mem_members, by simpa⟩
    | @bitwise op target t hne =>
      exact ⟨_, .bitwise target t, (IsRow.bitwise op t).mem_members, by simpa⟩
    | @ifZero c target label hne =>
      exact ⟨_, .ifZero target label, (IsRow.ifZero c label).mem_members, by simpa⟩
    | @ifCompare c target label hne =>
      exact ⟨_, .ifCompare target label, (IsRow.ifCompare c label).mem_members, by simpa⟩
    | @dynamicArithmetic name op target hop hne =>
      obtain rfl := ArithmeticOp.ofDynamicName?_eq_some.1 hop
      have hnames := ArithmeticOp.dynamicName_injective.ne hne
      exact ⟨_, .dynamicArithmetic target rfl, (IsRow.dynamicArithmetic op rfl).mem_members,
        by simpa⟩
    | @dynamicRelational m c target hc hne =>
      obtain ⟨kind, owner, name, descriptor⟩ := m
      obtain ⟨howner, rfl⟩ := MethodRef.dynamicCondition?_eq_some.1 hc
      have hnames := Condition.dynamicName_injective.ne hne
      exact ⟨_, .dynamicRelational target howner rfl,
        (IsRow.dynamicRelational c howner rfl).mem_members, by simpa⟩
  · rintro ⟨F, hrow, hi, hne⟩
    obtain ⟨s', hi⟩ := mem_members_iff.1 hi
    cases hrow with
    | arithmetic | bitwise | ifZero | ifCompare =>
      cases hi
      constructor
      simpa using hne
    | dynamicArithmetic target htarget =>
      cases hi with
      | dynamicArithmetic op hname =>
        subst htarget hname
        refine .dynamicArithmetic (ArithmeticOp.ofDynamicName?_eq_some.2 rfl) ?_
        rintro rfl
        exact hne rfl
    | dynamicRelational target howner htarget =>
      cases hi with
      | dynamicRelational c howner' hname =>
        subst howner howner' htarget hname
        refine .dynamicRelational (MethodRef.dynamicCondition?_eq_some.2 ⟨rfl, rfl⟩) ?_
        rintro rfl
        exact hne rfl

/-- A substitution puts its own member in the place of every other member of the family. -/
theorem IsRow.substitute?_of_mem (hrow : F.IsRow s j) (hi : i ∈ F.members) :
    s.substitute? i = if j = i then none else some j := by
  split_ifs with hji
  · -- Within the family, the substitution could offer nothing but `j`.
    by_contra hsome
    obtain ⟨k, hk⟩ := Option.ne_none_iff_exists'.1 hsome
    obtain ⟨G, hkrow, hiG, hik⟩ := substitute?_eq_some_iff_isRow.1 hk
    obtain rfl := eq_of_mem_members hi hiG
    exact hik (hji.symm.trans (hrow.functional hkrow))
  · exact substitute?_eq_some_iff_isRow.2 ⟨F, hrow, hi, Ne.symm hji⟩

theorem substitute?_eq_none (h : ∀ F : SubstitutionFamily, i ∈ F.members → s ∉ F.substitutions) :
    s.substitute? i = none := by
  by_contra hsome
  obtain ⟨j, hj⟩ := Option.ne_none_iff_exists'.1 hsome
  obtain ⟨F, hrow, hi, -⟩ := substitute?_eq_some_iff_isRow.1 hj
  exact h F hi (mem_substitutions_iff.2 ⟨j, hrow⟩)

/-! ### The operators of a family -/

/-- The substitutions of a family are distinct, and stand in the list of all substitutions in the
order of the family. -/
theorem filter_all_substitutions (F : SubstitutionFamily) :
    (Substitution.all.filter fun s => s ∈ F.substitutions) = F.substitutions := by
  cases F with
  | arithmetic t => cases t <;> rfl
  | bitwise | ifZero | ifCompare | dynamicArithmetic | dynamicRelational => rfl

end SubstitutionFamily

theorem Operator.filter_category_all :
    (all.filter fun o => o.category = .operatorSubstitution) =
      Substitution.all.map .substitution := by
  decide

/-- What the operators of the category of substitutions offer for an instruction: the operator, and
the code it emits with the allocator after it. -/
def Instruction.substitutes (context : InstructionContext) (a : LocalAllocator) (i : Instruction) :
    List (Operator × Except BodyError (List Instruction) × LocalAllocator) :=
  (Operator.all.filter fun o => o.category = .operatorSubstitution).filterMap fun o =>
    (o.candidate? context i).map fun r => (o, r.emission.emit a)

theorem Instruction.substitutes_eq (context : InstructionContext) (a : LocalAllocator)
    (i : Instruction) :
    i.substitutes context a = Substitution.all.filterMap fun s =>
      (s.substitute? i).map fun j => (.substitution s, .ok [j], a) := by
  rw [substitutes, Operator.filter_category_all, List.filterMap_map]
  refine List.filterMap_congr fun s _ => ?_
  simp only [Function.comp_apply, Operator.candidate?, Substitution.candidate?, Option.map_map]
  rfl

namespace SubstitutionFamily

variable {F : SubstitutionFamily} {i : Instruction}

theorem substitutes_of_mem (context : InstructionContext) (a : LocalAllocator)
    (hi : i ∈ F.members) :
    i.substitutes context a = (F.rows.filter fun row => row.2 ≠ i).map fun row =>
      (.substitution row.1, .ok [row.2], a) := by
  -- What is not in the family offers nothing for `i`.
  have hother (s : Substitution) (hs : s ∉ F.substitutions) : s.substitute? i = none :=
    substitute?_eq_none fun G hG => by rwa [eq_of_mem_members hi hG]
  rw [Instruction.substitutes_eq]
  trans F.substitutions.filterMap fun s =>
    (s.substitute? i).map fun j => (.substitution s, .ok [j], a)
  · rw [← filter_all_substitutions F, List.filterMap_filter]
    refine List.filterMap_congr fun s _ => ?_
    by_cases hs : s ∈ F.substitutions
    · simp [hs]
    · simp [hs, hother s hs]
  · rw [substitutions, List.filterMap_map, ← List.filterMap_eq_map, List.filterMap_filter]
    refine List.filterMap_congr fun row hrow => ?_
    rw [Function.comp_apply, (mem_rows_iff.1 hrow).substitute?_of_mem hi]
    by_cases h : row.2 = i <;> simp [h]

theorem substitutes_of_forall_notMem (context : InstructionContext) (a : LocalAllocator)
    (hi : ∀ F : SubstitutionFamily, i ∉ F.members) : i.substitutes context a = [] := by
  rw [Instruction.substitutes_eq, List.filterMap_eq_nil_iff]
  intro s _
  rw [substitute?_eq_none fun F hF => absurd hF (hi F), Option.map_none]

/-- The substitutions that offer something for a member of a family are those of the family that
have another target, and they offer the other members, each once; the members are distinct, have
one effect on the stack, and belong to no other family. For an instruction of no family, no
substitution offers anything. -/
theorem substitutes_are_other_members (context : InstructionContext) (a : LocalAllocator)
    (i : Instruction) :
    (∀ (F : SubstitutionFamily) (s : Substitution), (s, i) ∈ F.rows →
      i.substitutes context a = (F.rows.filter fun row => row.1 ≠ s).map (fun row =>
        (.substitution row.1, .ok [row.2], a)) ∧
      (i.substitutes context a).map Prod.snd =
        (F.members.filter fun j => j ≠ i).map (fun j => (.ok [j], a)) ∧
      F.members.Nodup ∧ (∀ j ∈ F.members, j.stackEffect = i.stackEffect) ∧
      ∀ G : SubstitutionFamily, i ∈ G.members → G = F) ∧
    ((∀ F : SubstitutionFamily, i ∉ F.members) → i.substitutes context a = []) := by
  constructor
  · intro F s hrow
    have hi := (mem_rows_iff.1 hrow).mem_members
    refine ⟨?_, ?_, F.nodup_members, fun j hj => stackEffect_eq hi hj,
      fun G hG => eq_of_mem_members hi hG⟩
    · rw [substitutes_of_mem context a hi]
      congr 1
      refine List.filter_congr fun row hmem => ?_
      have hrow' := mem_rows_iff.1 hmem
      have hiff : row.2 = i ↔ row.1 = s := by
        constructor
        · intro h
          exact (h ▸ hrow').injective (mem_rows_iff.1 hrow)
        · intro h
          exact (h ▸ hrow').functional (mem_rows_iff.1 hrow)
      simp [hiff]
    · rw [substitutes_of_mem context a hi, members, List.filter_map, List.map_map, List.map_map]
      rfl
  · exact substitutes_of_forall_notMem context a

/-- A load of the name of an operator is exchanged for the loads of the other names, and a load of
any other string for nothing. -/
theorem plus_has_four_substitutes :
    (.dynamicArithmetic .add, .loadConst (.string "plus")) ∈ dynamicArithmetic.rows ∧
    (Instruction.loadConst (.string "plus")).substitutes ⟨default, none⟩ ⟨3⟩ =
      [(.substitution (.dynamicArithmetic .sub), .ok [.loadConst (.string "minus")], ⟨3⟩),
        (.substitution (.dynamicArithmetic .mul), .ok [.loadConst (.string "multiply")], ⟨3⟩),
        (.substitution (.dynamicArithmetic .div), .ok [.loadConst (.string "div")], ⟨3⟩),
        (.substitution (.dynamicArithmetic .rem), .ok [.loadConst (.string "mod")], ⟨3⟩)] ∧
    (∀ F : SubstitutionFamily, .loadConst (.string "power") ∉ F.members) ∧
    (Instruction.loadConst (.string "power")).substitutes ⟨default, none⟩ ⟨3⟩ = [] := by
  have hplus : (.dynamicArithmetic .add, .loadConst (.string "plus")) ∈ dynamicArithmetic.rows :=
    List.mem_cons_self
  have hpower (F : SubstitutionFamily) : .loadConst (.string "power") ∉ F.members := by
    rw [mem_members_iff]
    rintro ⟨s, hrow⟩
    cases hrow with
    | dynamicArithmetic op hname => cases op <;> simp [ArithmeticOp.dynamicName] at hname
  exact ⟨hplus, (substitutes_are_other_members _ _ _).1 _ _ hplus |>.1, hpower,
    (substitutes_are_other_members _ _ _).2 hpower⟩

end SubstitutionFamily

end BytecodeMutation
