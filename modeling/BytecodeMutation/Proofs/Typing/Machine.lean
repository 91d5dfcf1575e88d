import BytecodeMutation.Proofs.Machine.Basic
import BytecodeMutation.Proofs.Typing.Frame

/-! The types of what a machine holds. Where the machine makes a step, the instruction checks and
leaves the types of the next state; so what is known of a run on values is known of the types of
every frame, because every frame is that of a state with default values. -/

namespace BytecodeMutation

open TypeFrame

namespace Machine

theorem Value.width_cases (v : Value) : v.width = 1 ∨ v.width = 2 := by
  rw [width]
  cases v.kind <;> decide

namespace Locals

variable {l : Locals} {m n : Nat} {v w : Value}

theorem get?_of_second (h : l n = some (.second v)) : l.get? n = none := by
  rw [get?, h]

/-- The second slot of a wide value holds no value of its own. -/
theorem get?_succ_of_wide (h : l.get? n = some v) (hwide : v.width = 2) : l.get? (n + 1) = none :=
  get?_of_second ((get?_eq_some.1 h).2 hwide)

/-- A wide value is gone once something is put into its second slot. -/
theorem get?_put_succ (h : l.get? m = some w) (hwide : w.width = 2) :
    (l.put (m + 1) v).get? m = none := by
  refine Option.eq_none_iff_forall_ne_some.2 fun u hu => ?_
  obtain ⟨hfirst, hsecond⟩ := get?_eq_some.1 hu
  rw [put_of_lt (Nat.lt_succ_self m), (get?_eq_some.1 h).1] at hfirst
  obtain rfl := Cell.first.inj (Option.some.inj hfirst)
  have hcell := hsecond hwide
  rw [put, if_pos rfl] at hcell
  cases hcell

/-- Where nothing was and nothing is put, nothing is found. -/
theorem get?_put_of_none (h : l.get? m = none) (hne : m ≠ n) : (l.put n v).get? m = none := by
  refine Option.eq_none_iff_forall_ne_some.2 fun w hw => ?_
  obtain ⟨hfirst, hsecond⟩ := get?_eq_some.1 hw
  rw [put, if_neg hne] at hfirst
  split at hfirst
  · cases hfirst
  refine Option.eq_none_iff_forall_ne_some.1 h w (get?_eq_some.2 ⟨hfirst, fun hwide => ?_⟩)
  have hcell := hsecond hwide
  rw [put] at hcell
  split at hcell
  · cases hcell
  · rwa [if_neg (by omega)] at hcell

def types (l : Locals) : LocalTypes where
  typeAt n := (l.get? n).map Value.kind
  wide_alone n t ht hwide := by
    obtain ⟨v, hv, rfl⟩ := Option.map_eq_some_iff.1 ht
    rw [get?_succ_of_wide hv hwide]
    rfl

theorem isWideAt_types : l.types.isWideAt m = true ↔ ∃ w, l.get? m = some w ∧ w.width = 2 := by
  rw [LocalTypes.isWideAt_iff]
  simp only [types, Option.map_eq_some_iff]
  constructor
  · rintro ⟨-, ⟨w, hw, rfl⟩, hwide⟩
    exact ⟨w, hw, hwide⟩
  · rintro ⟨w, hw, hwide⟩
    exact ⟨_, ⟨w, hw, rfl⟩, hwide⟩

theorem types_put : (l.put n v).types = l.types.put n v.kind := by
  ext m : 2
  change ((l.put n v).get? m).map Value.kind = if m = n then some v.kind
    else if m = n + 1 ∧ v.width = 2 ∨ m + 1 = n ∧ l.types.isWideAt m then none
    else (l.get? m).map Value.kind
  split
  · rename_i hmn
    rw [hmn, get?_put_self]
    rfl
  rename_i hne
  split
  · rename_i hover
    rcases hover with ⟨rfl, hwide⟩ | ⟨rfl, hwide⟩
    · rw [get?_of_second (v := v)]
      · rfl
      · rw [put, if_neg hne, if_pos ⟨hwide, rfl⟩]
    · obtain ⟨w, hw, hwide⟩ := isWideAt_types.1 hwide
      rw [get?_put_succ hw hwide]
      rfl
  · rename_i hapart
    cases hm : l.get? m with
    | none => rw [get?_put_of_none hm hne]
    | some w =>
      have hbelow : ¬(m + 1 = n ∧ w.width = 2) := fun h =>
        hapart (.inr ⟨h.1, isWideAt_types.2 ⟨w, hm, h.2⟩⟩)
      have habove : ¬(m = n + 1 ∧ v.width = 2) := fun h => hapart (.inl h)
      have hw := w.width_cases
      have hv := v.width_cases
      rw [get?_put_of_disjoint (by omega) hm]

end Locals

def State.types (s : State) : TypeFrame := ⟨s.stack.map Value.kind, s.locals.types⟩

/-! ### Steps -/

theorem check_push {i : Instruction} {t : LocalType} {limit : Nat} {f : TypeFrame}
    (h : i.signature? = some ⟨[], some t⟩) :
    check limit i f = some ⟨t :: f.stack, f.locals⟩ :=
  check_transfer h

theorem check_pop {t : LocalType} (h : t.width = 1) {limit : Nat} {rest : List LocalType}
    {l : LocalTypes} : check limit .pop ⟨t :: rest, l⟩ = some ⟨rest, l⟩ := by
  cases t <;> first | rfl | exact absurd h (by decide)

theorem check_pop2 {t : LocalType} (h : t.width = 2) {limit : Nat} {rest : List LocalType}
    {l : LocalTypes} : check limit .pop2 ⟨t :: rest, l⟩ = some ⟨rest, l⟩ := by
  cases t <;> first | rfl | exact absurd h (by decide)

theorem check_pop2_pair {t u : LocalType} (ht : t.width = 1) (hu : u.width = 1) {limit : Nat}
    {rest : List LocalType} {l : LocalTypes} :
    check limit .pop2 ⟨t :: u :: rest, l⟩ = some ⟨rest, l⟩ := by
  cases t <;> cases u <;> first | rfl | exact absurd ht (by decide) | exact absurd hu (by decide)

theorem check_types_load {k : LocalType} {n : UInt16} {s t : State} {limit : Nat}
    (hlimit : n.toNat + k.width ≤ limit) (h : step (.load k n) s = some t) :
    check limit (.load k n) s.types = some t.types := by
  obtain ⟨v, hv, rfl, rfl⟩ := step_load_eq_some h
  refine check_load_eq_some.2 ⟨hlimit, ?_, rfl⟩
  change (s.locals.get? n.toNat).map Value.kind = some v.kind
  rw [hv]
  rfl

theorem check_types_store {k : LocalType} {n : UInt16} {s t : State} {limit : Nat}
    (hlimit : n.toNat + k.width ≤ limit) (h : step (.store k n) s = some t) :
    check limit (.store k n) s.types = some t.types := by
  obtain ⟨v, stack, hstack, rfl, rfl⟩ := step_store_eq_some h
  refine check_store_eq_some.2 ⟨hlimit, stack.map Value.kind, ?_, ?_⟩
  · rw [State.types, hstack]
    rfl
  · rw [State.types, Locals.types_put]
    rfl

theorem check_types_pop {s t : State} {limit : Nat} (h : step .pop s = some t) :
    check limit .pop s.types = some t.types := by
  obtain ⟨v, stack, hstack, hwidth, rfl⟩ := step_pop_eq_some h
  rw [State.types, hstack]
  exact check_pop hwidth

theorem check_types_pop2 {s t : State} {limit : Nat} (h : step .pop2 s = some t) :
    check limit .pop2 s.types = some t.types := by
  rcases step_pop2_eq_some h with
    ⟨v, stack, hstack, hwidth, rfl⟩ | ⟨v, w, stack, hstack, hwidth, hw, rfl⟩
  · rw [State.types, hstack]
    exact check_pop2 hwidth
  · rw [State.types, hstack]
    exact check_pop2_pair (v.width_cases.resolve_right hwidth) hw

/-- A step on values is a step on their types. -/
theorem check_types {i : Instruction} {s t : State} {limit : Nat} (hlimit : i.localsEnd ≤ limit)
    (h : step i s = some t) : check limit i s.types = some t.types := by
  cases i with
  | load k n => exact check_types_load hlimit h
  | store k n => exact check_types_store hlimit h
  | pop => exact check_types_pop h
  | pop2 => exact check_types_pop2 h
  | nullConst | intConst v | bytePush v | shortPush v | longConst v | floatConst v
  | doubleConst v =>
    obtain rfl := Option.some.inj h
    exact check_push rfl
  | loadConst c =>
    cases c with
    | int v | long v | float v | double v =>
      obtain rfl := Option.some.inj h
      exact check_push rfl
    | _ => cases h
  | _ => cases h

theorem checkAll_types {is : List Instruction} {s t : State} {limit : Nat}
    (hlimit : ∀ i ∈ is, i.localsEnd ≤ limit) (h : run is s = some t) :
    checkAll limit is s.types = some t.types := by
  induction is generalizing s with
  | nil =>
    obtain rfl := Option.some.inj h
    rfl
  | cons i is ih =>
    obtain ⟨u, hu, ht⟩ := Option.bind_eq_some_iff.1 h
    rw [checkAll_cons, check_types (hlimit i List.mem_cons_self) hu, Option.bind_some]
    exact ih (fun j hj => hlimit j (List.mem_cons_of_mem i hj)) ht

end Machine

/-! ### Frames as those of states -/

namespace LocalTypes

open Machine

/-- The second half of the default value that begins right below a slot. -/
def secondZero (l : LocalTypes) : Nat → Option Cell
  | 0 => none
  | n + 1 => (l.typeAt n).bind fun t => if t.width = 2 then some (.second (.zero t)) else none

/-- Locals with default values of these types. -/
def zeros (l : LocalTypes) : Locals := fun n =>
  match l.typeAt n with
  | some t => some (.first (.zero t))
  | none => l.secondZero n

variable {l : LocalTypes} {n : Nat}

theorem zeros_of_some {t : LocalType} (h : l.typeAt n = some t) :
    l.zeros n = some (.first (.zero t)) := by
  rw [zeros, h]

theorem zeros_ne_first (h : l.typeAt n = none) (v : Value) : l.zeros n ≠ some (.first v) := by
  rw [zeros, h]
  cases n with
  | zero => exact nofun
  | succ n =>
    simp only [secondZero]
    cases l.typeAt n with
    | none => exact nofun
    | some t =>
      rw [Option.bind_some]
      split <;> exact nofun

theorem types_zeros : l.zeros.types = l := by
  ext n : 2
  change (l.zeros.get? n).map Value.kind = l.typeAt n
  cases ht : l.typeAt n with
  | none =>
    cases hv : l.zeros.get? n with
    | none => rfl
    | some v => exact absurd (Locals.get?_eq_some.1 hv).1 (zeros_ne_first ht v)
  | some t =>
    have hv : l.zeros.get? n = some (.zero t) := by
      refine Locals.get?_eq_some.2 ⟨zeros_of_some ht, fun hwide => ?_⟩
      rw [Value.width, Value.kind_zero] at hwide
      rw [zeros, l.wide_alone n t ht hwide, secondZero, ht, Option.bind_some, if_pos hwide]
    rw [hv, Option.map_some, Value.kind_zero]

/-- Locals that agree below a slot hold values of the same types there, if none reaches across. -/
theorem typeAt_of_agree {l' : Locals} {limit : Nat} (hagree : ∀ m < limit, l' m = l.zeros m)
    (hparted : l.PartedAt limit) (hn : n < limit) :
    l'.types.typeAt n = l.typeAt n := by
  change (l'.get? n).map Value.kind = l.typeAt n
  cases ht : l.typeAt n with
  | none =>
    cases hv : l'.get? n with
    | none => rfl
    | some v =>
      have hfirst := (Locals.get?_eq_some.1 hv).1
      rw [hagree n hn] at hfirst
      exact absurd hfirst (zeros_ne_first ht v)
  | some t =>
    have hend := hparted n hn t ht
    have hv : l'.get? n = some (.zero t) := by
      refine Locals.get?_eq_some.2 ⟨by rw [hagree n hn, zeros_of_some ht], fun hwide => ?_⟩
      rw [Value.width, Value.kind_zero] at hwide
      rw [hagree (n + 1) (by omega), zeros, l.wide_alone n t ht hwide, secondZero, ht,
        Option.bind_some, if_pos hwide]
    rw [hv, Option.map_some, Value.kind_zero]

end LocalTypes

theorem Machine.map_kind_zero (ts : List LocalType) : (ts.map Value.zero).map Value.kind = ts := by
  rw [List.map_map]
  exact (List.map_congr_left fun t _ => Value.kind_zero t).trans (List.map_id ts)

/-- A state with default values of these types. -/
def TypeFrame.zeros (f : TypeFrame) : Machine.State := ⟨f.stack.map Machine.Value.zero, f.locals.zeros⟩

theorem TypeFrame.types_zeros (f : TypeFrame) : f.zeros.types = f :=
  TypeFrame.ext (Machine.map_kind_zero f.stack) LocalTypes.types_zeros

end BytecodeMutation
