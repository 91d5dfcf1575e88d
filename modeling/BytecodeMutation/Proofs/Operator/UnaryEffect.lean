import BytecodeMutation.Proofs.Machine.Arithmetic
import BytecodeMutation.Proofs.Operator.Candidates

/-! What unary steps do at run time. The code of a step is executed in every frame in which its
instruction finds a number of its type. It changes no local but that of the instruction, and leaves
the number that the step is made for there or on the stack. -/

namespace BytecodeMutation

open Machine

/-! ### One local -/

namespace Machine.Locals

/-- The local holds the value afterwards, and every slot outside of it is as it was before. -/
structure Sets (l : Locals) (n : Nat) (v : Value) (l' : Locals) : Prop where
  get?_eq : l'.get? n = some v
  outside : ∀ m, m < n ∨ n + v.width ≤ m → l' m = l m

theorem sets_put (l : Locals) (n : Nat) (v : Value) : l.Sets n v (l.put n v) :=
  ⟨get?_put_self, fun _ hm => put_of_disjoint hm v.width_pos⟩

/-- A value of the same kind takes the place of one that was set before. -/
theorem Sets.put {l l' : Locals} {n : Nat} {v w : Value} (h : l.Sets n v l')
    (hkind : w.kind = v.kind) : l.Sets n w (l'.put n w) := by
  have hwidth : w.width = v.width := congrArg LocalType.width hkind
  refine ⟨get?_put_self, fun m hm => ?_⟩
  rw [put_of_disjoint hm w.width_pos]
  exact h.outside m (hwidth ▸ hm)

end Machine.Locals

namespace UnaryStep

/-- The instruction finds a number of its type: in its local, or for a store on top of the stack. -/
def Touches : Instruction → State → Prop
  | .increment n _, s => ∃ x, s.locals.get? n.toNat = some (.int x)
  | .load t n, s => ∃ v, s.locals.get? n.toNat = some v ∧ v.kind = t
  | .store t _, s => ∃ v stack, s.stack = v :: stack ∧ v.kind = t
  | _, _ => False

/-- What each step makes of a frame when it takes the place of an instruction. -/
inductive Effect : UnaryStep → Instruction → State → State → Prop
  /-- The increment is subtracted. -/
  | reverse {n : UInt16} {delta : Int16} {x : Int32} {stack : List Value} {l l' : Locals} :
    l.get? n.toNat = some (.int x) → l.Sets n.toNat (.int (x - delta.toInt32)) l' →
    Effect .reverse (.increment n delta) ⟨stack, l⟩ ⟨stack, l'⟩
  /-- The local is incremented by one more. -/
  | addIncrement {n : UInt16} {delta : Int16} {x : Int32} {stack : List Value} {l l' : Locals} :
    l.get? n.toNat = some (.int x) → l.Sets n.toNat (.int (x + delta.toInt32 + 1)) l' →
    Effect .addIncrement (.increment n delta) ⟨stack, l⟩ ⟨stack, l'⟩
  /-- The local holds the successor of its number, which is on the stack as well. -/
  | preIncrement {t : NumericType} {n : UInt16} {x : t.Number} {stack : List Value}
    {l l' : Locals} :
    l.get? n.toNat = some (.number t x) → l.Sets n.toNat (.number t (x + 1)) l' →
    Effect .preIncrement (.load t.toLocal n) ⟨stack, l⟩ ⟨.number t (x + 1) :: stack, l'⟩
  /-- The local holds the predecessor of its number, which is on the stack as well. -/
  | preDecrement {t : NumericType} {n : UInt16} {x : t.Number} {stack : List Value}
    {l l' : Locals} :
    l.get? n.toNat = some (.number t x) → l.Sets n.toNat (.number t (x - 1)) l' →
    Effect .preDecrement (.load t.toLocal n) ⟨stack, l⟩ ⟨.number t (x - 1) :: stack, l'⟩
  /-- The opposite of the local is incremented. -/
  | negateIncremented {n : UInt16} {delta : Int16} {x : Int32} {stack : List Value}
    {l l' : Locals} :
    l.get? n.toNat = some (.int x) → l.Sets n.toNat (.int (-x + delta.toInt32)) l' →
    Effect .negateIncremented (.increment n delta) ⟨stack, l⟩ ⟨stack, l'⟩
  /-- The opposite of the local is on the stack. -/
  | negateLoaded {t : NumericType} {n : UInt16} {x : t.Number} {stack : List Value} {l : Locals} :
    l.get? n.toNat = some (.number t x) →
    Effect .negateLoaded (.load t.toLocal n) ⟨stack, l⟩ ⟨.number t (-x) :: stack, l⟩
  /-- The local holds the opposite of what was on the stack. -/
  | negateStored {t : NumericType} {n : UInt16} {x : t.Number} {stack : List Value}
    {l l' : Locals} :
    l.Sets n.toNat (.number t (-x)) l' →
    Effect .negateStored (.store t.toLocal n) ⟨.number t x :: stack, l⟩ ⟨stack, l'⟩

/-! ### Numbers in the locals -/

theorem touches_load {t : NumericType} {n : UInt16} {s : State}
    (h : Touches (.load t.toLocal n) s) : ∃ x, s.locals.get? n.toNat = some (.number t x) := by
  obtain ⟨v, hv, hkind⟩ := h
  obtain ⟨x, rfl⟩ := Value.eq_number_of_kind hkind
  exact ⟨x, hv⟩

theorem toInt32_succ {delta : Int16} (h : delta ≠ 32767) :
    (delta + 1).toInt32 = delta.toInt32 + 1 := by
  have hlow := delta.le_toInt
  have hhigh : delta.toInt + 1 < 32768 := by
    have hne : delta.toInt ≠ 32767 := fun heq => h (Int16.toInt_inj.1 heq)
    have hlt := delta.toInt_lt
    omega
  have hone : (1 : Int16).toInt = 1 := rfl
  have hone' : (1 : Int32).toInt = 1 := rfl
  rw [← Int32.toInt_inj, Int16.toInt_toInt32, Int16.toInt_add, Int32.toInt_add,
    Int16.toInt_toInt32, hone, hone', Int.bmod_eq_of_le, Int.bmod_eq_of_le] <;> omega

/-! ### Execution -/

theorem execute_pushOne (t : NumericType) (stack : List Value) (l : Locals) :
    execute (pushOne t) ⟨stack, l⟩ = some ⟨.number t 1 :: stack, l⟩ := by
  cases t <;> rfl

/-- The number in the local, one more or one less. -/
def stepped {t : NumericType} (up : Bool) (x : t.Number) : t.Number := if up then x + 1 else x - 1

theorem execute_stepOp {t : NumericType} (up : Bool) (x : t.Number) (stack : List Value)
    (l : Locals) :
    execute (.arith (if up then .add else .sub) t) ⟨.number t 1 :: .number t x :: stack, l⟩ =
      some ⟨.number t (stepped up x) :: stack, l⟩ := by
  cases up
  · exact execute_sub x 1 stack l
  · exact execute_add x 1 stack l

/-- An int is stepped by an increment. -/
theorem int_add_increment (up : Bool) (x : Int32) :
    Value.int (x + (if up then 1 else -1 : Int16).toInt32) = .number .int (stepped up x) := by
  cases up
  · exact congrArg Value.int (Int32.sub_eq_add_neg x 1).symm
  · rfl

variable {t : NumericType} {n : UInt16} {l : Locals}

theorem executeAll_synthesized {x : t.Number} (h : l.get? n.toNat = some (.number t x)) (up : Bool)
    (stack : List Value) :
    executeAll [.load t.toLocal n, pushOne t, .arith (if up then .add else .sub) t,
        .store t.toLocal n, .load t.toLocal n] ⟨stack, l⟩ =
      some ⟨.number t (stepped up x) :: stack, l.put n.toNat (.number t (stepped up x))⟩ := by
  simp only [executeAll_cons, executeAll_nil, Option.bind_some, execute_load h, execute_pushOne,
    execute_stepOp, execute_store, execute_load_put]

theorem executeAll_increment_load {x : Int32} (h : l.get? n.toNat = some (.int x)) (up : Bool)
    (stack : List Value) :
    executeAll [.increment n (if up then 1 else -1), .load .int n] ⟨stack, l⟩ =
      some ⟨.number .int (stepped up x) :: stack, l.put n.toNat (.number .int (stepped up x))⟩ := by
  rw [executeAll_cons, execute_increment h, int_add_increment, Option.bind_some, executeAll_cons]
  exact congrArg (Option.bind · _) execute_load_put

/-- By one instruction or by four, the local is stepped, and its new number is loaded. -/
theorem executeAll_stepAndLoad {x : t.Number} (h : l.get? n.toNat = some (.number t x)) (up : Bool)
    (stack : List Value) :
    executeAll (stepAndLoad t n up) ⟨stack, l⟩ =
      some ⟨.number t (stepped up x) :: stack, l.put n.toNat (.number t (stepped up x))⟩ := by
  cases t with
  | int => exact executeAll_increment_load h up stack
  | long | float | double => exact executeAll_synthesized h up stack

theorem executeAll_negateIncremented {x : Int32} (h : l.get? n.toNat = some (.int x))
    (delta : Int16) (stack : List Value) :
    executeAll [.load .int n, .neg .int, .store .int n, .increment n delta] ⟨stack, l⟩ =
      some ⟨stack, (l.put n.toNat (.int (-x))).put n.toNat (.int (-x + delta.toInt32))⟩ := by
  have hload : execute (.load .int n) ⟨stack, l⟩ = some ⟨.int x :: stack, l⟩ :=
    execute_load (t := .int) h
  have hneg : execute (.neg .int) ⟨.int x :: stack, l⟩ = some ⟨.int (-x) :: stack, l⟩ :=
    execute_neg (t := .int) x stack l
  have hstore : execute (.store .int n) ⟨.int (-x) :: stack, l⟩ =
      some ⟨stack, l.put n.toNat (.int (-x))⟩ :=
    execute_store (t := .int) (-x : Int32) stack l
  have hnegated : (l.put n.toNat (.int (-x))).get? n.toNat = some (.int (-x)) :=
    Locals.get?_put_self
  simp only [executeAll_cons, executeAll_nil, Option.bind_some, hload, hneg, hstore,
    execute_increment hnegated]

/-- Wherever its instruction finds a number of its type, the code of a unary step is executed, and
it has the effect of the step. -/
theorem unary_step_takes_effect {u : UnaryStep} {context : InstructionContext} {i : Instruction}
    {r : Replacement} (h : (Operator.unaryStep u).candidate? context i = some r) {s : State}
    (hs : Touches i s) (a : LocalAllocator) :
    ∃ code s', r.emission.emit a = (.ok code, a) ∧ executeAll code s = some s' ∧
      Effect u i s s' := by
  obtain ⟨code, hemission, hcode⟩ := candidate?_emits h
  obtain ⟨stack, l⟩ := s
  rw [hemission]
  cases hcode with
  | @reverse n delta hne =>
    obtain ⟨x, hx⟩ := hs
    refine ⟨_, _, rfl, ?_, .reverse hx (l.sets_put _ _)⟩
    rw [executeAll_cons, execute_increment hx, Int16.toInt32_neg_of_ne hne,
      ← Int32.sub_eq_add_neg]
    rfl
  | @addIncrement n delta hne =>
    obtain ⟨x, hx⟩ := hs
    refine ⟨_, _, rfl, ?_, .addIncrement hx (l.sets_put _ _)⟩
    rw [executeAll_cons, execute_increment hx, toInt32_succ hne, ← Int32.add_assoc]
    rfl
  | preIncrement t n =>
    obtain ⟨x, hx⟩ := touches_load hs
    exact ⟨_, _, rfl, executeAll_stepAndLoad hx true stack, .preIncrement hx (l.sets_put _ _)⟩
  | preDecrement t n =>
    obtain ⟨x, hx⟩ := touches_load hs
    exact ⟨_, _, rfl, executeAll_stepAndLoad hx false stack, .preDecrement hx (l.sets_put _ _)⟩
  | negateIncremented n delta =>
    obtain ⟨x, hx⟩ := hs
    exact ⟨_, _, rfl, executeAll_negateIncremented hx delta stack,
      .negateIncremented hx ((l.sets_put _ _).put rfl)⟩
  | negateLoaded t n =>
    obtain ⟨x, hx⟩ := touches_load hs
    refine ⟨_, _, rfl, ?_, .negateLoaded hx⟩
    simp only [executeAll_cons, executeAll_nil, Option.bind_some, execute_load hx, execute_neg]
  | negateStored t n =>
    obtain ⟨v, rest, hstack, hkind⟩ := hs
    obtain ⟨x, rfl⟩ := Value.eq_number_of_kind hkind
    obtain rfl : stack = .number t x :: rest := hstack
    refine ⟨_, _, rfl, ?_, .negateStored (l.sets_put _ _)⟩
    simp only [executeAll_cons, executeAll_nil, Option.bind_some, execute_neg, execute_store]

/-- The greatest long is incremented in its local before it is loaded. -/
theorem greatest_long_is_incremented :
    let s : State := ⟨[.int 7], Locals.put (fun _ => none) 3 (.long 0x7fffffffffffffff)⟩
    Touches (.load .long 3) s ∧
      ∃ r code s', (Operator.unaryStep .preIncrement).candidate? ⟨default, none⟩ (.load .long 3) =
        some r ∧ r.emission.emit ⟨5⟩ = (.ok code, ⟨5⟩) ∧ executeAll code s = some s' ∧
        Effect .preIncrement (.load .long 3) s s' := by
  intro s
  have htouches : Touches (.load .long 3) s := ⟨_, Locals.get?_put_self, rfl⟩
  obtain ⟨r, hr⟩ : ∃ r, (Operator.unaryStep .preIncrement).candidate? ⟨default, none⟩
    (.load .long 3) = some r := ⟨_, rfl⟩
  obtain ⟨code, s', hemit, hrun, heffect⟩ := unary_step_takes_effect hr htouches ⟨5⟩
  exact ⟨htouches, r, code, s', hr, hemit, hrun, heffect⟩

end UnaryStep

end BytecodeMutation
