import BytecodeMutation.Proofs.Machine.Basic

/-! Arithmetic on the machine. An operation takes numbers of its type off the stack and puts the
result there. Ints and longs wrap around; floating-point numbers are rounded to nearest. -/

namespace BytecodeMutation

/-! ### Numbers -/

instance : Add Binary32 := ⟨fun x y => .ofFloat (x.toFloat + y.toFloat)⟩

instance : Sub Binary32 := ⟨fun x y => .ofFloat (x.toFloat - y.toFloat)⟩

instance : Add Binary64 := ⟨fun x y => .ofFloat (x.toFloat + y.toFloat)⟩

instance : Sub Binary64 := ⟨fun x y => .ofFloat (x.toFloat - y.toFloat)⟩

namespace NumericType

/-- The numbers of a type. -/
def Number : NumericType → Type
  | int => Int32
  | long => Int64
  | float => Binary32
  | double => Binary64

variable {t : NumericType}

instance : Add t.Number :=
  match t with
  | int => inferInstanceAs (Add Int32)
  | long => inferInstanceAs (Add Int64)
  | float => inferInstanceAs (Add Binary32)
  | double => inferInstanceAs (Add Binary64)

instance : Sub t.Number :=
  match t with
  | int => inferInstanceAs (Sub Int32)
  | long => inferInstanceAs (Sub Int64)
  | float => inferInstanceAs (Sub Binary32)
  | double => inferInstanceAs (Sub Binary64)

instance : Neg t.Number :=
  match t with
  | int => inferInstanceAs (Neg Int32)
  | long => inferInstanceAs (Neg Int64)
  | float => ⟨Binary32.negate⟩
  | double => ⟨Binary64.negate⟩

instance : One t.Number :=
  match t with
  | int => ⟨(1 : Int32)⟩
  | long => ⟨(1 : Int64)⟩
  | float => ⟨Binary32.one⟩
  | double => ⟨Binary64.one⟩

end NumericType

namespace Machine

namespace Value

def number : (t : NumericType) → t.Number → Value
  | .int => int
  | .long => long
  | .float => float
  | .double => double

/-- The number that a value is, if it has the type. -/
def number? : (t : NumericType) → Value → Option t.Number
  | .int, int x => some x
  | .long, long x => some x
  | .float, float x => some x
  | .double, double x => some x
  | _, _ => none

variable {t : NumericType}

@[simp] theorem kind_number (x : t.Number) : (number t x).kind = t.toLocal := by
  cases t <;> rfl

@[simp] theorem number?_number (x : t.Number) : number? t (number t x) = some x := by
  cases t <;> rfl

theorem eq_number_of_kind {v : Value} (h : v.kind = t.toLocal) : ∃ x, v = number t x := by
  cases t <;> cases v <;> cases h <;> exact ⟨_, rfl⟩

end Value

/-! ### Steps -/

/-- As `step`, with additions, subtractions and negations of numbers and increments of locals. -/
def execute : Instruction → State → Option State
  | .arith .add t, ⟨w :: v :: stack, l⟩ =>
    (v.number? t).bind fun x => (w.number? t).map fun y => ⟨.number t (x + y) :: stack, l⟩
  | .arith .sub t, ⟨w :: v :: stack, l⟩ =>
    (v.number? t).bind fun x => (w.number? t).map fun y => ⟨.number t (x - y) :: stack, l⟩
  | .neg t, ⟨v :: stack, l⟩ => (v.number? t).map fun x => ⟨.number t (-x) :: stack, l⟩
  | .increment n delta, ⟨stack, l⟩ =>
    ((l.get? n.toNat).bind (Value.number? .int)).map fun (x : Int32) =>
      ⟨stack, l.put n.toNat (.int (x + delta.toInt32))⟩
  | i, s => step i s

/-- What moves values runs as before. -/
theorem execute_of_step {i : Instruction} {s s' : State} (h : step i s = some s') :
    execute i s = some s' := by
  unfold execute
  split
  case h_5 => exact h
  all_goals cases h

def executeAll : List Instruction → State → Option State
  | [], s => some s
  | i :: is, s => (execute i s).bind (executeAll is)

@[simp] theorem executeAll_nil (s : State) : executeAll [] s = some s := rfl

@[simp] theorem executeAll_cons (i : Instruction) (is : List Instruction) (s : State) :
    executeAll (i :: is) s = (execute i s).bind (executeAll is) := rfl

variable {t : NumericType} {n : UInt16} (x y : t.Number) (stack : List Value) (l : Locals)

@[simp] theorem execute_add :
    execute (.arith .add t) ⟨.number t y :: .number t x :: stack, l⟩ =
      some ⟨.number t (x + y) :: stack, l⟩ := by
  simp [execute]

@[simp] theorem execute_sub :
    execute (.arith .sub t) ⟨.number t y :: .number t x :: stack, l⟩ =
      some ⟨.number t (x - y) :: stack, l⟩ := by
  simp [execute]

@[simp] theorem execute_neg :
    execute (.neg t) ⟨.number t x :: stack, l⟩ = some ⟨.number t (-x) :: stack, l⟩ := by
  simp [execute]

@[simp] theorem execute_store :
    execute (.store t.toLocal n) ⟨.number t x :: stack, l⟩ =
      some ⟨stack, l.put n.toNat (.number t x)⟩ := by
  rw [← Value.kind_number x]
  exact execute_of_step (step_store _ n stack l)

variable {x stack l}

theorem execute_load (h : l.get? n.toNat = some (.number t x)) :
    execute (.load t.toLocal n) ⟨stack, l⟩ = some ⟨.number t x :: stack, l⟩ := by
  rw [← Value.kind_number x]
  exact execute_of_step (step_load h)

/-- What was just put into a local is found there. -/
@[simp] theorem execute_load_put :
    execute (.load t.toLocal n) ⟨stack, l.put n.toNat (.number t x)⟩ =
      some ⟨.number t x :: stack, l.put n.toNat (.number t x)⟩ :=
  execute_load Locals.get?_put_self

theorem execute_increment {x : Int32} (h : l.get? n.toNat = some (.int x)) (delta : Int16) :
    execute (.increment n delta) ⟨stack, l⟩ =
      some ⟨stack, l.put n.toNat (.int (x + delta.toInt32))⟩ := by
  rw [execute, h]
  rfl

end Machine

end BytecodeMutation
