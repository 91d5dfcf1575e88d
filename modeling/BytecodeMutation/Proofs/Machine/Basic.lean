import BytecodeMutation.Instruction.Basic

/-! A machine that moves values between an operand stack and local variables. A wide value is one
entry of the stack but two slots of the locals, and is there only as long as both are intact. The
machine stops where an instruction finds too few values, one of another kind, or half of one; it
knows the instructions that push constants, drop values, and load and store locals. -/

namespace BytecodeMutation

namespace Machine

inductive Value where
  | int (v : Int32)
  | long (v : Int64)
  | float (v : Binary32)
  | double (v : Binary64)
  /-- An object, or null. -/
  | reference (object : Option Nat)
  deriving DecidableEq, Inhabited

namespace Value

def kind : Value → LocalType
  | int _ => .int
  | long _ => .long
  | float _ => .float
  | double _ => .double
  | reference _ => .reference

def width (v : Value) : Nat := v.kind.width

/-- The default value of a kind. -/
def zero : LocalType → Value
  | .int => int 0
  | .long => long 0
  | .float => float .zero
  | .double => double .zero
  | .reference => reference none

@[simp] theorem kind_zero (t : LocalType) : (zero t).kind = t := by
  cases t <;> rfl

theorem width_pos (v : Value) : 0 < v.width := by
  rw [width]
  cases v.kind <;> decide

end Value

/-- A slot of the locals holds a value, or the second half of a wide one. -/
inductive Cell where
  | first (v : Value)
  | second (v : Value)
  deriving DecidableEq

abbrev Locals := Nat → Option Cell

namespace Locals

def put (l : Locals) (n : Nat) (v : Value) : Locals := fun m =>
  if m = n then some (.first v)
  else if v.width = 2 ∧ m = n + 1 then some (.second v)
  else l m

def get? (l : Locals) (n : Nat) : Option Value :=
  match l n with
  | some (.first v) => if v.width = 2 ∧ l (n + 1) ≠ some (.second v) then none else some v
  | _ => none

end Locals

/-- The values on the stack from the top down, and the locals. -/
structure State where
  stack : List Value
  locals : Locals

def State.push (s : State) (v : Value) : State := { s with stack := v :: s.stack }

def step : Instruction → State → Option State
  | .nullConst, s => some (s.push (.reference none))
  | .intConst v, s | .loadConst (.int v), s => some (s.push (.int v))
  | .bytePush v, s => some (s.push (.int v.toInt32))
  | .shortPush v, s => some (s.push (.int v.toInt32))
  | .longConst v, s | .loadConst (.long v), s => some (s.push (.long v))
  | .floatConst v, s | .loadConst (.float v), s => some (s.push (.float v))
  | .doubleConst v, s | .loadConst (.double v), s => some (s.push (.double v))
  | .load t n, s =>
    match s.locals.get? n.toNat with
    | some v => if v.kind = t then some (s.push v) else none
    | none => none
  | .store t n, ⟨v :: stack, l⟩ => if v.kind = t then some ⟨stack, l.put n.toNat v⟩ else none
  | .pop, ⟨v :: stack, l⟩ => if v.width = 1 then some ⟨stack, l⟩ else none
  | .pop2, ⟨v :: stack, l⟩ =>
    if v.width = 2 then some ⟨stack, l⟩
    else
      match stack with
      | w :: stack => if w.width = 1 then some ⟨stack, l⟩ else none
      | [] => none
  | _, _ => none

theorem step_pop {v : Value} (h : v.width = 1) (stack : List Value) (l : Locals) :
    step .pop ⟨v :: stack, l⟩ = some ⟨stack, l⟩ := if_pos h

theorem step_pop2 {v : Value} (h : v.width = 2) (stack : List Value) (l : Locals) :
    step .pop2 ⟨v :: stack, l⟩ = some ⟨stack, l⟩ := if_pos h

theorem step_store (v : Value) (n : UInt16) (stack : List Value) (l : Locals) :
    step (.store v.kind n) ⟨v :: stack, l⟩ = some ⟨stack, l.put n.toNat v⟩ := if_pos rfl

theorem step_load {v : Value} {n : UInt16} {s : State} (h : s.locals.get? n.toNat = some v) :
    step (.load v.kind n) s = some (s.push v) := by
  change (match s.locals.get? n.toNat with
    | some w => if w.kind = v.kind then some (s.push w) else none
    | none => none) = _
  rw [h]
  exact if_pos rfl

theorem step_load_eq_some {t : LocalType} {n : UInt16} {s s' : State}
    (h : step (.load t n) s = some s') :
    ∃ v, s.locals.get? n.toNat = some v ∧ v.kind = t ∧ s' = s.push v := by
  change (match s.locals.get? n.toNat with
    | some v => if v.kind = t then some (s.push v) else none
    | none => none) = some s' at h
  split at h
  · rename_i v hv
    split at h
    · rename_i hkind
      exact ⟨v, hv, hkind, (Option.some.inj h).symm⟩
    · cases h
  · cases h

theorem step_store_eq_some {t : LocalType} {n : UInt16} {s s' : State}
    (h : step (.store t n) s = some s') :
    ∃ v stack, s.stack = v :: stack ∧ v.kind = t ∧ s' = ⟨stack, s.locals.put n.toNat v⟩ := by
  obtain ⟨stack, l⟩ := s
  cases stack with
  | nil => cases h
  | cons v stack =>
    change (if v.kind = t then some ⟨stack, l.put n.toNat v⟩ else none) = some s' at h
    split at h
    · rename_i hkind
      exact ⟨v, stack, rfl, hkind, (Option.some.inj h).symm⟩
    · cases h

theorem step_pop_eq_some {s s' : State} (h : step .pop s = some s') :
    ∃ v stack, s.stack = v :: stack ∧ v.width = 1 ∧ s' = ⟨stack, s.locals⟩ := by
  obtain ⟨stack, l⟩ := s
  cases stack with
  | nil => cases h
  | cons v stack =>
    change (if v.width = 1 then some ⟨stack, l⟩ else none) = some s' at h
    split at h
    · rename_i hwidth
      exact ⟨v, stack, rfl, hwidth, (Option.some.inj h).symm⟩
    · cases h

/-- One wide value is dropped, or two values of which the lower one is narrow. -/
theorem step_pop2_eq_some {s s' : State} (h : step .pop2 s = some s') :
    (∃ v stack, s.stack = v :: stack ∧ v.width = 2 ∧ s' = ⟨stack, s.locals⟩) ∨
      ∃ v w stack, s.stack = v :: w :: stack ∧ v.width ≠ 2 ∧ w.width = 1 ∧
        s' = ⟨stack, s.locals⟩ := by
  obtain ⟨stack, l⟩ := s
  cases stack with
  | nil => cases h
  | cons v stack =>
    change (if v.width = 2 then some ⟨stack, l⟩
      else
        match stack with
        | w :: stack => if w.width = 1 then some ⟨stack, l⟩ else none
        | [] => none) = some s' at h
    split at h
    · rename_i hwidth
      exact .inl ⟨v, stack, rfl, hwidth, (Option.some.inj h).symm⟩
    · rename_i hwidth
      split at h
      · rename_i w stack
        split at h
        · rename_i hw
          exact .inr ⟨v, w, stack, rfl, hwidth, hw, (Option.some.inj h).symm⟩
        · cases h
      · cases h

def run : List Instruction → State → Option State
  | [], s => some s
  | i :: is, s => (step i s).bind (run is)

@[simp] theorem run_nil (s : State) : run [] s = some s := rfl

@[simp] theorem run_cons (i : Instruction) (is : List Instruction) (s : State) :
    run (i :: is) s = (step i s).bind (run is) := rfl

theorem run_singleton (i : Instruction) (s : State) : run [i] s = step i s := by
  rw [run_cons]
  exact Option.bind_fun_some _

theorem run_append (is js : List Instruction) (s : State) :
    run (is ++ js) s = (run is s).bind (run js) := by
  induction is generalizing s with
  | nil => rfl
  | cons i is ih =>
    rw [List.cons_append, run_cons, run_cons, Option.bind_assoc]
    congr 1
    funext t
    exact ih t

/-! ### Locals -/

namespace Locals

variable {l : Locals} {m n : Nat} {v w : Value}

theorem get?_eq_some : l.get? n = some v ↔
    l n = some (.first v) ∧ (v.width = 2 → l (n + 1) = some (.second v)) := by
  unfold get?
  split
  · rename_i w hw
    split
    · rename_i hbroken
      refine iff_of_false nofun ?_
      rintro ⟨hv, hsecond⟩
      obtain rfl := Cell.first.inj (Option.some.inj (hw.symm.trans hv))
      exact hbroken.2 (hsecond hbroken.1)
    · rename_i hwhole
      rw [hw, Option.some.injEq, Option.some.injEq, Cell.first.injEq]
      constructor
      · rintro rfl
        exact ⟨rfl, fun hwide => Decidable.not_not.1 fun hne => hwhole ⟨hwide, hne⟩⟩
      · exact fun h => h.1
  · rename_i hnone
    refine iff_of_false nofun fun h => hnone v h.1

theorem get?_put_self : (l.put n v).get? n = some v := by
  refine get?_eq_some.2 ⟨if_pos rfl, fun hwide => ?_⟩
  rw [put, if_neg (by omega), if_pos ⟨hwide, rfl⟩]

theorem put_of_disjoint (h : n < m ∨ m + w.width ≤ n) (hw : 0 < w.width) : l.put m w n = l n := by
  rw [put, if_neg (by omega), if_neg (by omega)]

/-- A value stays when another one is put beside it. -/
theorem get?_put_of_disjoint (h : n + v.width ≤ m ∨ m + w.width ≤ n) (hv : l.get? n = some v) :
    (l.put m w).get? n = some v := by
  obtain ⟨hfirst, hsecond⟩ := get?_eq_some.1 hv
  have hv' := v.width_pos
  have hw' := w.width_pos
  refine get?_eq_some.2 ⟨?_, fun hwide => ?_⟩
  · rw [put_of_disjoint (by omega) hw', hfirst]
  · rw [put_of_disjoint (by omega) hw', hsecond hwide]

theorem put_of_lt (h : m < n) : l.put n v m = l m := put_of_disjoint (.inl h) v.width_pos

/-- Several values put one after the other. -/
def putAll (l : Locals) (ws : List (Nat × Value)) : Locals :=
  ws.foldl (fun l w => l.put w.1 w.2) l

/-- Two values in the locals that have no slot in common. -/
def Disjoint (p q : Nat × Value) : Prop := p.1 + p.2.width ≤ q.1 ∨ q.1 + q.2.width ≤ p.1

theorem Disjoint.symm {p q : Nat × Value} (h : Disjoint p q) : Disjoint q p := Or.symm h

theorem putAll_append (l : Locals) (ws xs : List (Nat × Value)) :
    l.putAll (ws ++ xs) = (l.putAll ws).putAll xs := List.foldl_append

theorem putAll_of_lt {ws : List (Nat × Value)} (h : ∀ p ∈ ws, m < p.1) : l.putAll ws m = l m := by
  induction ws generalizing l with
  | nil => rfl
  | cons p ws ih =>
    have hrest := @ih (l.put p.1 p.2) fun q hq => h q (List.mem_cons_of_mem p hq)
    rw [putAll, List.foldl_cons, ← putAll, hrest, put_of_lt (h p List.mem_cons_self)]

theorem get?_putAll_of_disjoint {ws : List (Nat × Value)} {p : Nat × Value}
    (h : ∀ q ∈ ws, Disjoint p q) (hp : l.get? p.1 = some p.2) :
    (l.putAll ws).get? p.1 = some p.2 := by
  induction ws generalizing l with
  | nil => exact hp
  | cons q ws ih =>
    refine @ih (l.put q.1 q.2) (fun r hr => h r (List.mem_cons_of_mem q hr)) ?_
    exact get?_put_of_disjoint (h q List.mem_cons_self) hp

/-- Of values that are disjoint each can be got back, in whatever order they were put. -/
theorem get?_putAll {ws : List (Nat × Value)} (h : ws.Pairwise Disjoint) {p : Nat × Value}
    (hp : p ∈ ws) : (l.putAll ws).get? p.1 = some p.2 := by
  induction ws generalizing l with
  | nil => cases hp
  | cons q ws ih =>
    obtain ⟨hq, hrest⟩ := List.pairwise_cons.1 h
    rw [putAll, List.foldl_cons, ← putAll]
    rcases List.mem_cons.1 hp with rfl | hp
    · exact get?_putAll_of_disjoint hq get?_put_self
    · exact ih hrest hp

end Locals

end Machine

end BytecodeMutation
