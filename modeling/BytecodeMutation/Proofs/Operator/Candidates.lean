import BytecodeMutation.Proofs.Operator.Redirected

/-! What the operators offer, family by family. Every candidate but a redirection with other
parameters emits one fixed piece of code, which stands in for the instruction; a redirection with
other parameters depends on the locals in use. -/

namespace BytecodeMutation

open Instruction

/-! ### Substitution -/

namespace Substitution

/-- What each substitution makes of the instructions that have another operator of its family. -/
inductive Exchanges : Substitution → Instruction → Instruction → Prop
  | arithmetic {op target : ArithmeticOp} {t : NumericType} :
    op ≠ target → Exchanges (.arithmetic target t) (.arith op t) (.arith target t)
  | bitwise {op target : BitwiseOp} {t : IntegerType} :
    op ≠ target → Exchanges (.bitwise target) (.bitwise op t) (.bitwise target t)
  | ifZero {c target : Condition} {label : Label} :
    c ≠ target → Exchanges (.relational target) (.ifZero c label) (.ifZero target label)
  | ifCompare {c target : Condition} {label : Label} :
    c ≠ target → Exchanges (.relational target) (.ifCompare c label) (.ifCompare target label)
  | dynamicArithmetic {name : String} {op target : ArithmeticOp} :
    ArithmeticOp.ofDynamicName? name = some op → op ≠ target →
    Exchanges (.dynamicArithmetic target) (.loadConst (.string name))
      (.loadConst (.string target.dynamicName))
  | dynamicRelational {m : MethodRef} {c target : Condition} :
    m.dynamicCondition? = some c → c ≠ target →
    Exchanges (.dynamicRelational target) (.invoke m)
      (.invoke { m with name := target.dynamicName })

theorem substitute?_eq_some_iff {s : Substitution} {i j : Instruction} :
    s.substitute? i = some j ↔ s.Exchanges i j := by
  constructor
  · intro h
    unfold substitute? at h
    split at h
    case h_1 =>
      simp only [Option.ite_none_right_eq_some, Option.some.injEq] at h
      obtain ⟨⟨rfl, hne⟩, rfl⟩ := h
      exact .arithmetic hne
    case h_5 =>
      split at h
      next op hop =>
        simp only [Option.ite_none_right_eq_some, Option.some.injEq] at h
        obtain ⟨hne, rfl⟩ := h
        exact .dynamicArithmetic hop hne
      next => cases h
    case h_6 =>
      split at h
      next c hc =>
        simp only [Option.ite_none_right_eq_some, Option.some.injEq] at h
        obtain ⟨hne, rfl⟩ := h
        exact .dynamicRelational hc hne
      next => cases h
    case h_7 => cases h
    all_goals
      simp only [Option.ite_none_right_eq_some, Option.some.injEq] at h
      obtain ⟨hne, rfl⟩ := h
      constructor
      exact hne
  · intro h
    cases h with
    | arithmetic hne => exact if_pos ⟨rfl, hne⟩
    | bitwise hne | ifZero hne | ifCompare hne => exact if_pos hne
    | dynamicArithmetic hop hne => simp only [substitute?, hop, if_pos hne]
    | dynamicRelational hc hne => simp only [substitute?, hc, if_pos hne]

end Substitution

theorem Substitution.alike_of_substitute? {s : Substitution} {i j : Instruction}
    (h : s.substitute? i = some j) : Alike i j := by
  cases substitute?_eq_some_iff.1 h <;> exact ⟨rfl, rfl, rfl, rfl, nofun, nofun⟩

theorem Substitution.candidate?_eq_some {s : Substitution} {i : Instruction} {r : Replacement}
    (h : s.candidate? i = some r) :
    ∃ j, s.substitute? i = some j ∧ r.emission = .sequence [j] := by
  obtain ⟨j, hj, rfl⟩ := Option.map_eq_some_iff.1 h
  exact ⟨j, hj, rfl⟩

/-! ### Constants -/

namespace Instruction

/-- The number that an instruction pushes. The short forms may hold any number here. -/
inductive Pushes : Instruction → Literal → Prop
  | intConst (v : Int32) : Pushes (.intConst v) (.int v)
  | bytePush (v : Int8) : Pushes (.bytePush v) (.int v.toInt32)
  | shortPush (v : Int16) : Pushes (.shortPush v) (.int v.toInt32)
  | intEntry (v : Int32) : Pushes (.loadConst (.int v)) (.int v)
  | longConst (v : Int64) : Pushes (.longConst v) (.long v)
  | longEntry (v : Int64) : Pushes (.loadConst (.long v)) (.long v)
  | floatConst (v : Binary32) : Pushes (.floatConst v) (.float v)
  | floatEntry (v : Binary32) : Pushes (.loadConst (.float v)) (.float v)
  | doubleConst (v : Binary64) : Pushes (.doubleConst v) (.double v)
  | doubleEntry (v : Binary64) : Pushes (.loadConst (.double v)) (.double v)

theorem pushes_iff {i : Instruction} {v : Literal} :
    i.Pushes v ↔ Literal.ofInstruction? i = some v := by
  constructor
  · rintro (_ | _ | _ | _ | _ | _ | _ | _ | _ | _) <;> rfl
  · intro h
    unfold Literal.ofInstruction? at h
    split at h
    case h_11 => cases h
    all_goals
      obtain rfl := Option.some.inj h
      constructor

end Instruction

namespace Literal

/-- A number that fits in one byte is read back from it. -/
theorem toInt32_ofInt_int8 {v : Int32} (h : -128 ≤ v.toInt ∧ v.toInt ≤ 127) :
    (Int8.ofInt v.toInt).toInt32 = v := by
  rw [← Int32.toInt_inj, Int8.toInt_toInt32, Int8.toInt_ofInt_of_le] <;> omega

/-- A number that fits in two bytes is read back from them. -/
theorem toInt32_ofInt_int16 {v : Int32} (h : -32768 ≤ v.toInt ∧ v.toInt ≤ 32767) :
    (Int16.ofInt v.toInt).toInt32 = v := by
  rw [← Int32.toInt_inj, Int16.toInt_toInt32, Int16.toInt_ofInt_of_le] <;> omega

theorem pushes_materialize (v : Literal) : v.materialize.Pushes v := by
  cases v with
  | int v =>
    simp only [materialize]
    split
    · exact .intConst v
    split
    · rename_i hbyte
      have hpushes := Pushes.bytePush (Int8.ofInt v.toInt)
      rwa [toInt32_ofInt_int8 hbyte] at hpushes
    split
    · rename_i hshort
      have hpushes := Pushes.shortPush (Int16.ofInt v.toInt)
      rwa [toInt32_ofInt_int16 hshort] at hpushes
    · exact .intEntry v
  | long v =>
    simp only [materialize]
    split
    · exact .longConst v
    · exact .longEntry v
  | float v =>
    simp only [materialize]
    split
    · exact .floatConst v
    · exact .floatEntry v
  | double v =>
    simp only [materialize]
    split
    · exact .doubleConst v
    · exact .doubleEntry v

def width : Literal → Nat
  | int _ | float _ => 1
  | long _ | double _ => 2

theorem width_perturb (p : Perturbation) (v : Literal) : (v.perturb p).width = v.width := by
  cases p <;> cases v <;> rfl

/-- An instruction that does nothing but push a value. -/
def IsPush (i : Instruction) (width : Nat) : Prop :=
  i.stackEffect = ⟨0, width⟩ ∧ i.IsPlain ∧ i.localsEnd = 0

theorem isPush_of_pushes {i : Instruction} {v : Literal} (h : i.Pushes v) :
    IsPush i v.width := by
  cases h <;> exact ⟨rfl, ⟨rfl, rfl, nofun⟩, rfl⟩

theorem IsPush.alike {i j : Instruction} {width : Nat} (hi : IsPush i width)
    (hj : IsPush j width) : Alike i j := by
  obtain ⟨heffect, ⟨htarget, hfalls, hlabel⟩, hlocals⟩ := hi
  obtain ⟨heffect', ⟨htarget', hfalls', hlabel'⟩, hlocals'⟩ := hj
  exact ⟨heffect'.trans heffect.symm, htarget'.trans htarget.symm, hfalls'.trans hfalls.symm,
    hlocals'.trans hlocals.symm, hlabel, hlabel'⟩

end Literal

theorem Perturbation.candidate?_eq_some {p : Perturbation} {i : Instruction} {r : Replacement}
    (h : p.candidate? i = some r) :
    ∃ v, i.Pushes v ∧ v.perturb p ≠ v ∧
      r.emission = .sequence [(v.perturb p).materialize] := by
  unfold candidate? at h
  split at h
  · cases h
  · rename_i v hv
    simp only at h
    split at h
    · cases h
    · rename_i hne
      obtain rfl := Option.some.inj h
      exact ⟨v, pushes_iff.2 hv, hne, rfl⟩

/-! ### Operands -/

theorem RemovedOperand.candidate?_eq_some {removed : RemovedOperand} {i : Instruction}
    {r : Replacement} (h : removed.candidate? i = some r) :
    ∃ op t, i = .arith op t ∧ r.emission = .dropOperand removed t := by
  unfold candidate? at h
  split at h
  · obtain rfl := Option.some.inj h
    exact ⟨_, _, rfl, rfl⟩
  · cases h

/-- The operand that is to be kept is the one that remains. -/
theorem RemovedOperand.prove_sequence (removed : RemovedOperand) (t : NumericType) :
    removed.prove t (removed.sequence t.width) = .ok () := by
  cases removed <;> cases t <;> exact toOption_eq_some.1 (by decide +kernel)

theorem RemovedOperand.standsIn_sequence (removed : RemovedOperand) (op : ArithmeticOp)
    (t : NumericType) (free : Nat) :
    StandsIn (.arith op t) (removed.sequence t.width) free free := by
  have hplain : ∀ t, (Instruction.arith op t).IsPlain := fun _ => ⟨rfl, rfl, nofun⟩
  cases removed <;> cases t
  case first.int | first.float =>
    exact .of_traces [.swap] .pop ⟨-1, -2, 0⟩ ⟨-1, -2, 0⟩ rfl rfl (by decide) (hplain _)
      (by simp)
  case first.long | first.double =>
    exact .of_traces [.dup2X2, .pop2] .pop2 ⟨-2, -4, 2⟩ ⟨-2, -4, 0⟩ rfl rfl (by decide) (hplain _)
      (by simp)
  case last.int | last.float =>
    exact .of_traces [] .pop ⟨-1, -1, 0⟩ ⟨-1, -2, 0⟩ rfl rfl (by decide) (hplain _)
      (by simp)
  case last.long | last.double =>
    exact .of_traces [] .pop2 ⟨-2, -2, 0⟩ ⟨-2, -4, 0⟩ rfl rfl (by decide) (hplain _)
      (by simp)

/-! ### Unary steps -/

theorem LocalType.eq_toLocal {t : LocalType} {n : NumericType} (h : t.numeric? = some n) :
    t = n.toLocal := by
  cases t <;> simp only [numeric?, Option.some.injEq, reduceCtorEq] at h <;> subst h <;> rfl

namespace UnaryStep

variable (n : NumericType) (index : UInt16) (free : Nat)

theorem plainBelow_pushOne (limit : Nat) : (pushOne n).PlainBelow limit := by
  cases n <;> exact ⟨⟨rfl, rfl, nofun⟩, Nat.zero_le limit⟩

theorem standsIn_stepAndLoad (up : Bool) :
    StandsIn (.load n.toLocal index) (stepAndLoad n index up) free free := by
  have hplain : ∀ t, (Instruction.load t index).IsPlain := fun _ => ⟨rfl, rfl, nofun⟩
  cases n
  case int =>
    exact .of_traces [_] _ ⟨1, 0, 1⟩ ⟨1, 0, 1⟩ rfl rfl (by decide) (hplain _)
      (by simp [NumericType.toLocal, LocalType.width])
  case float =>
    exact .of_traces [_, _, _, _] _ ⟨1, 0, 2⟩ ⟨1, 0, 1⟩ rfl rfl (by decide) (hplain _)
      (by simp [NumericType.toLocal, plainBelow_pushOne])
  case long | double =>
    exact .of_traces [_, _, _, _] _ ⟨2, 0, 4⟩ ⟨2, 0, 2⟩ rfl rfl (by decide) (hplain _)
      (by simp [NumericType.toLocal, plainBelow_pushOne])

theorem standsIn_negateIncremented (delta : Int16) :
    StandsIn (.increment index delta)
      [.load .int index, .neg .int, .store .int index, .increment index delta] free free :=
  .of_traces [_, _, _] _ ⟨0, 0, 1⟩ ⟨0, 0, 0⟩ rfl rfl (by decide) ⟨rfl, rfl, nofun⟩
    (by simp [LocalType.width])

theorem standsIn_negateLoaded :
    StandsIn (.load n.toLocal index) [.load n.toLocal index, .neg n] free free := by
  have hplain : ∀ t, (Instruction.load t index).IsPlain := fun _ => ⟨rfl, rfl, nofun⟩
  cases n
  case int | float =>
    exact .of_traces [_] _ ⟨1, 0, 1⟩ ⟨1, 0, 1⟩ rfl rfl (by decide) (hplain _)
      (by simp)
  case long | double =>
    exact .of_traces [_] _ ⟨2, 0, 2⟩ ⟨2, 0, 2⟩ rfl rfl (by decide) (hplain _)
      (by simp)

theorem standsIn_negateStored :
    StandsIn (.store n.toLocal index) [.neg n, .store n.toLocal index] free free := by
  have hplain : ∀ t, (Instruction.store t index).IsPlain := fun _ => ⟨rfl, rfl, nofun⟩
  cases n
  case int | float =>
    exact .of_traces [_] _ ⟨-1, -1, 0⟩ ⟨-1, -1, 0⟩ rfl rfl (by decide) (hplain _)
      (by simp)
  case long | double =>
    exact .of_traces [_] _ ⟨-2, -2, 0⟩ ⟨-2, -2, 0⟩ rfl rfl (by decide) (hplain _)
      (by simp)

/-- The code that each unary step puts in the place of an instruction. The two numbers excluded have
no opposite and no successor of 16 bits. -/
inductive Emits : UnaryStep → Instruction → List Instruction → Prop
  | reverse (index : UInt16) {delta : Int16} : delta ≠ -32768 →
    Emits .reverse (.increment index delta) [.increment index (-delta)]
  | addIncrement (index : UInt16) {delta : Int16} : delta ≠ 32767 →
    Emits .addIncrement (.increment index delta) [.increment index (delta + 1)]
  | preIncrement (n : NumericType) (index : UInt16) :
    Emits .preIncrement (.load n.toLocal index) (stepAndLoad n index true)
  | preDecrement (n : NumericType) (index : UInt16) :
    Emits .preDecrement (.load n.toLocal index) (stepAndLoad n index false)
  | negateIncremented (index : UInt16) (delta : Int16) :
    Emits .negateIncremented (.increment index delta)
      [.load .int index, .neg .int, .store .int index, .increment index delta]
  | negateLoaded (n : NumericType) (index : UInt16) :
    Emits .negateLoaded (.load n.toLocal index) [.load n.toLocal index, .neg n]
  | negateStored (n : NumericType) (index : UInt16) :
    Emits .negateStored (.store n.toLocal index) [.neg n, .store n.toLocal index]

section

variable {delta opposite raised : Int16}

theorem reversed?_eq_some_iff :
    reversed? delta = some opposite ↔ delta ≠ 0 ∧ delta ≠ -32768 ∧ -delta = opposite := by
  simp [reversed?, and_assoc]

theorem raised?_eq_some_iff :
    raised? delta = some raised ↔ delta ≠ 32767 ∧ delta + 1 = raised := by
  simp [raised?]

theorem ne_of_reversed? (h : reversed? delta = some opposite) : opposite ≠ delta := by
  obtain ⟨hzero, hleast, rfl⟩ := reversed?_eq_some_iff.1 h
  grind

theorem reversed?_of_reversed? (h : reversed? delta = some opposite) :
    reversed? opposite = some delta := by
  obtain ⟨hzero, hleast, rfl⟩ := reversed?_eq_some_iff.1 h
  exact reversed?_eq_some_iff.2 ⟨by grind, by grind, Int16.neg_neg⟩

end

theorem candidate?_reverse_eq_some {inConstructor : Bool} {i : Instruction} {r : Replacement}
    (h : reverse.candidate? inConstructor i = some r) :
    ∃ index delta opposite, i = .increment index delta ∧ reversed? delta = some opposite ∧
      r.emission = .sequence [.increment index opposite] := by
  cases i with
  | increment index delta =>
    obtain ⟨opposite, hopposite, rfl⟩ := Option.map_eq_some_iff.1 h
    exact ⟨index, delta, opposite, rfl, hopposite, rfl⟩
  | _ => cases h

theorem candidate?_emits {s : UnaryStep} {inConstructor : Bool} {i : Instruction}
    {r : Replacement} (h : s.candidate? inConstructor i = some r) :
    ∃ code, r.emission = .sequence code ∧ Emits s i code := by
  unfold candidate? at h
  split at h
  case h_1 index delta =>
    obtain ⟨opposite, hopposite, rfl⟩ := Option.map_eq_some_iff.1 h
    obtain ⟨-, hleast, rfl⟩ := reversed?_eq_some_iff.1 hopposite
    exact ⟨_, rfl, .reverse index hleast⟩
  case h_2 index delta =>
    obtain ⟨raised, hraised, rfl⟩ := Option.map_eq_some_iff.1 h
    obtain ⟨hne, rfl⟩ := raised?_eq_some_iff.1 hraised
    exact ⟨_, rfl, .addIncrement index hne⟩
  case h_3 t index =>
    obtain ⟨n, hn, rfl⟩ := Option.map_eq_some_iff.1 h
    rw [LocalType.eq_toLocal hn]
    exact ⟨_, rfl, .preIncrement n index⟩
  case h_4 t index =>
    obtain ⟨n, hn, rfl⟩ := Option.map_eq_some_iff.1 h
    rw [LocalType.eq_toLocal hn]
    exact ⟨_, rfl, .preDecrement n index⟩
  case h_5 index delta =>
    obtain rfl := Option.some.inj h
    exact ⟨_, rfl, .negateIncremented index delta⟩
  case h_6 t index =>
    split at h
    · cases h
    · obtain ⟨n, hn, rfl⟩ := Option.map_eq_some_iff.1 h
      rw [LocalType.eq_toLocal hn]
      exact ⟨_, rfl, .negateLoaded n index⟩
  case h_7 t index =>
    obtain ⟨n, hn, rfl⟩ := Option.map_eq_some_iff.1 h
    rw [LocalType.eq_toLocal hn]
    exact ⟨_, rfl, .negateStored n index⟩
  case h_8 => cases h

/-- The code that a unary step puts in the place of an instruction, whichever step it is. -/
inductive Rewrites : Instruction → List Instruction → Prop
  | increment (index : UInt16) (delta delta' : Int16) :
    Rewrites (.increment index delta) [.increment index delta']
  | stepped (n : NumericType) (index : UInt16) (up : Bool) :
    Rewrites (.load n.toLocal index) (stepAndLoad n index up)
  | negatedIncrement (index : UInt16) (delta : Int16) :
    Rewrites (.increment index delta)
      [.load .int index, .neg .int, .store .int index, .increment index delta]
  | negatedLoad (n : NumericType) (index : UInt16) :
    Rewrites (.load n.toLocal index) [.load n.toLocal index, .neg n]
  | negatedStore (n : NumericType) (index : UInt16) :
    Rewrites (.store n.toLocal index) [.neg n, .store n.toLocal index]

theorem Emits.rewrites {s : UnaryStep} {i : Instruction} {code : List Instruction}
    (h : Emits s i code) : Rewrites i code := by
  cases h with
  | reverse index _ => exact .increment index _ _
  | addIncrement index _ => exact .increment index _ _
  | preIncrement n index => exact .stepped n index true
  | preDecrement n index => exact .stepped n index false
  | negateIncremented index delta => exact .negatedIncrement index delta
  | negateLoaded n index => exact .negatedLoad n index
  | negateStored n index => exact .negatedStore n index

theorem candidate?_rewrites {s : UnaryStep} {inConstructor : Bool} {i : Instruction}
    {r : Replacement} (h : s.candidate? inConstructor i = some r) :
    ∃ code, r.emission = .sequence code ∧ Rewrites i code := by
  obtain ⟨code, hemission, hcode⟩ := candidate?_emits h
  exact ⟨code, hemission, hcode.rewrites⟩

theorem Rewrites.standsIn {i : Instruction} {code : List Instruction} (h : Rewrites i code) :
    StandsIn i code free free := by
  cases h with
  | increment index delta delta' => exact .single ⟨rfl, rfl, rfl, rfl, nofun, nofun⟩
  | stepped n index up => exact standsIn_stepAndLoad n index free up
  | negatedIncrement index delta => exact standsIn_negateIncremented index free delta
  | negatedLoad n index => exact standsIn_negateLoaded n index free
  | negatedStore n index => exact standsIn_negateStored n index free

theorem candidate?_eq_some {s : UnaryStep} {inConstructor : Bool} {i : Instruction}
    {r : Replacement} (h : s.candidate? inConstructor i = some r) :
    ∃ code, r.emission = .sequence code ∧ ∀ free, StandsIn i code free free := by
  obtain ⟨code, hemission, hcode⟩ := candidate?_rewrites h
  exact ⟨code, hemission, fun free => hcode.standsIn free⟩

end UnaryStep

/-! ### Redirections -/

theorem MethodDescriptor.eq_of_parts {d e : MethodDescriptor} (hparams : d.params = e.params)
    (hret : d.ret = e.ret) : d = e := by
  cases d
  cases e
  cases hparams
  cases hret
  rfl

theorem CallMode.candidate?_eq_some {mode : CallMode} {context : InstructionContext}
    {i : Instruction} {r : Replacement} (h : mode.candidate? context i = some r) :
    ∃ call catalog record, i = .invoke call ∧ context.catalog = some catalog ∧
      catalog.firstCompatible? call mode = some record ∧ record.fits call mode = true ∧
      r = mode.redirect call (target call record) := by
  unfold candidate? at h
  split at h
  · rename_i call
    split at h
    · cases h
    · split at h
      · cases h
      · rename_i catalog hcatalog
        obtain ⟨record, hrecord, rfl⟩ := Option.map_eq_some_iff.1 h
        have hfits : record.fits call mode = true := by
          rw [SignatureCatalog.firstCompatible?] at hrecord
          exact List.find?_some (p := fun s : SignatureRecord => s.fits call mode) hrecord
        exact ⟨call, catalog, record, rfl, hcatalog, hrecord, hfits, rfl⟩
  · cases h

/-- The recorded method that a call is given other parameters for. -/
def Operator.chosenRecord? (o : Operator) (catalog : Option SignatureCatalog) (i : Instruction) :
    Option SignatureRecord :=
  match o, i, catalog with
  | .redirection .sameName, .invoke call, some c => c.firstCompatible? call .sameName
  | _, _, _ => none

/-! ### All operators -/

/-- A candidate emits code that stands in for the instruction, whatever the locals in use, or
redirects a call to the chosen record. -/
theorem Operator.candidate_cases {o : Operator} {context : InstructionContext} {i : Instruction}
    {r : Replacement} (h : o.candidate? context i = some r) :
    (o.chosenRecord? context.catalog i = none ∧ ∃ code, (∀ a, r.emission.emit a = (.ok code, a)) ∧
      ∀ free, StandsIn i code free free) ∨
    ∃ call record, o = .redirection .sameName ∧ i = .invoke call ∧
      o.chosenRecord? context.catalog i = some record ∧
      record.descriptor.ret = call.descriptor.ret ∧
      r.emission = .redirect call (CallMode.target call record) := by
  cases o with
  | substitution s =>
    obtain ⟨j, hj, hemission⟩ := Substitution.candidate?_eq_some h
    refine .inl ⟨rfl, [j], fun a => by rw [hemission]; rfl, fun free => ?_⟩
    exact .single (Substitution.alike_of_substitute? hj)
  | elimination removed =>
    obtain ⟨op, t, rfl, hemission⟩ := RemovedOperand.candidate?_eq_some h
    refine .inl ⟨rfl, removed.sequence t.width, fun a => ?_, removed.standsIn_sequence op t⟩
    rw [hemission, Emission.emit]
    simp only [removed.prove_sequence, ok_map]
  | perturbation p =>
    obtain ⟨v, hv, -, hemission⟩ := Perturbation.candidate?_eq_some h
    refine .inl ⟨rfl, [(v.perturb p).materialize], fun a => by rw [hemission]; rfl, fun free => ?_⟩
    have hpush := Literal.isPush_of_pushes (Literal.pushes_materialize (v.perturb p))
    rw [Literal.width_perturb] at hpush
    exact .single ((Literal.isPush_of_pushes hv).alike hpush)
  | unaryStep s =>
    obtain ⟨code, hemission, hcode⟩ := UnaryStep.candidate?_eq_some h
    exact .inl ⟨rfl, code, fun a => by rw [hemission]; rfl, hcode⟩
  | redirection mode =>
    obtain ⟨call, catalog, record, rfl, hcatalog, hrecord, hfits, rfl⟩ :=
      CallMode.candidate?_eq_some h
    cases mode with
    | sameParameters =>
      simp only [SignatureRecord.fits, Bool.and_eq_true, beq_iff_eq] at hfits
      have hdescriptor : record.descriptor = call.descriptor :=
        MethodDescriptor.eq_of_parts hfits.2.1 hfits.1.2
      refine .inl ⟨rfl, [.invoke (CallMode.target call record)], fun a => rfl, fun free => ?_⟩
      exact .single (.invoke (by simp only [stackEffect, CallMode.target, hdescriptor]))
    | sameName =>
      simp only [SignatureRecord.fits, Bool.and_eq_true, beq_iff_eq] at hfits
      refine .inr ⟨call, record, rfl, rfl, ?_, hfits.1.2, rfl⟩
      simp only [chosenRecord?, hcatalog, hrecord]

end BytecodeMutation
