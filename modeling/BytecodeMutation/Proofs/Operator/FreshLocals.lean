import BytecodeMutation.Operator.Replacement
import Mathlib.Algebra.Ring.Nat

/-! Fresh local variables. Slots for a list of widths are handed out one after the other from the
first free one on, and are refused exactly when they would reach past slot 65534. -/

namespace BytecodeMutation

theorem MethodDescriptor.argumentSlots_eq_sum (d : MethodDescriptor) :
    d.argumentSlots = (d.params.map ValueType.width).sum := by
  simp only [argumentSlots, List.sum, List.foldr_map]

namespace LocalAllocator

/-- The first slots of values of several widths that lie one after the other from a slot on. -/
def slotsFrom : Nat → List Nat → List Nat
  | _, [] => []
  | n, width :: widths => n :: slotsFrom (n + width) widths

@[simp] theorem length_slotsFrom (n : Nat) (widths : List Nat) :
    (slotsFrom n widths).length = widths.length := by
  induction widths generalizing n with
  | nil => rfl
  | cons width widths ih => simp [slotsFrom, ih]

/-- Values of several types that take slots one after the other from a slot on. -/
def Tiles : Nat → List (ValueType × UInt16) → Prop
  | _, [] => True
  | n, (t, slot) :: rest => slot.toNat = n ∧ Tiles (n + t.width) rest

theorem tiles_zip {n : Nat} {ts : List ValueType} {slots : List UInt16}
    (h : slots.map UInt16.toNat = slotsFrom n (ts.map ValueType.width)) :
    Tiles n (ts.zip slots) := by
  induction ts generalizing n slots with
  | nil => exact True.intro
  | cons t ts ih =>
    cases slots with
    | nil => cases h
    | cons slot slots =>
      obtain ⟨hslot, hrest⟩ := List.cons.inj h
      exact ⟨hslot, ih hrest⟩

/-- Each value lies between the first slot and the first one after all of them. -/
theorem Tiles.mem_bounds {n : Nat} {new : List (ValueType × UInt16)} (h : Tiles n new)
    {q : ValueType × UInt16} (hq : q ∈ new) :
    n ≤ q.2.toNat ∧ q.2.toNat + q.1.width ≤ n + (new.map fun q => q.1.width).sum := by
  induction new generalizing n with
  | nil => cases hq
  | cons p new ih =>
    obtain ⟨t, slot⟩ := p
    obtain ⟨hslot, hrest⟩ := h
    rw [List.map_cons, List.sum_cons]
    rcases List.mem_cons.1 hq with rfl | hq
    · simp only
      omega
    · have := ih hrest hq
      simp only
      omega

/-- Earlier values end before later ones begin. -/
theorem Tiles.pairwise {n : Nat} {new : List (ValueType × UInt16)} (h : Tiles n new) :
    new.Pairwise fun p q => p.2.toNat + p.1.width ≤ q.2.toNat := by
  induction new generalizing n with
  | nil => exact .nil
  | cons p new ih =>
    obtain ⟨t, slot⟩ := p
    obtain ⟨hslot, hrest⟩ := h
    refine .cons (fun q hq => ?_) (ih hrest)
    have := (hrest.mem_bounds hq).1
    simp only
    omega

theorem allocate_fits {a : LocalAllocator} {width : Nat} (h : a.next.toNat + width ≤ 65535) :
    ∃ b : LocalAllocator, a.allocate width = .ok (a.next, b) ∧
      b.next.toNat = a.next.toNat + width := by
  refine ⟨_, if_pos h, ?_⟩
  rw [UInt16.toNat_add, Nat.toUInt16_eq, UInt16.toNat_ofNat']
  omega

theorem allocate_overflows {a : LocalAllocator} {width : Nat}
    (h : 65535 < a.next.toNat + width) : a.allocate width = .error (.frameOverflow .maxLocals) :=
  if_neg (by omega)

theorem allocateAll_fits {a : LocalAllocator} {widths : List Nat}
    (h : a.next.toNat + widths.sum ≤ 65535) :
    ∃ (slots : List UInt16) (b : LocalAllocator), allocateAll widths a = (.ok slots, b) ∧
      slots.map UInt16.toNat = slotsFrom a.next.toNat widths ∧
      b.next.toNat = a.next.toNat + widths.sum := by
  induction widths generalizing a with
  | nil => exact ⟨[], a, rfl, rfl, rfl⟩
  | cons width widths ih =>
    rw [List.sum_cons] at h
    obtain ⟨b, hb, hnext⟩ := allocate_fits (show a.next.toNat + width ≤ 65535 by omega)
    obtain ⟨slots, c, hc, hslots, hlast⟩ := ih (a := b) (by omega)
    refine ⟨a.next :: slots, c, ?_, ?_, ?_⟩
    · simp only [allocateAll, hb, hc]
    · rw [List.map_cons, hslots, slotsFrom, hnext]
    · rw [hlast, hnext, List.sum_cons]
      omega

theorem allocateAll_overflows {a : LocalAllocator} {widths : List Nat}
    (h : 65535 < a.next.toNat + widths.sum) :
    (allocateAll widths a).1 = .error (.frameOverflow .maxLocals) := by
  induction widths generalizing a with
  | nil =>
    have := a.next.toNat_lt
    rw [List.sum_nil] at h
    omega
  | cons width widths ih =>
    rw [List.sum_cons] at h
    rw [allocateAll]
    by_cases hw : a.next.toNat + width ≤ 65535
    · obtain ⟨b, hb, hnext⟩ := allocate_fits hw
      have hrest := ih (a := b) (by omega)
      cases hall : allocateAll widths b with
      | mk slots c =>
        rw [hall] at hrest
        obtain rfl := hrest
        simp only [hb, hall]
    · rw [allocate_overflows (by omega)]

/-- Slots are only ever added to those in use. -/
theorem next_le_of_allocateAll {a b : LocalAllocator} {widths : List Nat} {slots : List UInt16}
    (h : allocateAll widths a = (.ok slots, b)) : a.next.toNat ≤ b.next.toNat := by
  by_cases hfit : a.next.toNat + widths.sum ≤ 65535
  · obtain ⟨slots', b', h', -, hnext⟩ := allocateAll_fits hfit
    rw [h] at h'
    obtain ⟨-, rfl⟩ := Prod.mk.inj h'
    omega
  · have hover := allocateAll_overflows (show 65535 < a.next.toNat + widths.sum by omega)
    rw [h] at hover
    cases hover

end LocalAllocator

theorem Emission.next_le_of_emit {e : Emission} {a b : LocalAllocator} {code : List Instruction}
    (h : e.emit a = (.ok code, b)) : a.next.toNat ≤ b.next.toNat := by
  cases e with
  | sequence code' =>
    obtain ⟨-, rfl⟩ := Prod.mk.inj h
    exact Nat.le_refl _
  | dropOperand removed t =>
    obtain ⟨-, rfl⟩ := Prod.mk.inj h
    exact Nat.le_refl _
  | redirect call target =>
    rw [emit] at h
    split at h
    · cases h
    · rename_i slots b' hslots
      obtain ⟨-, rfl⟩ := Prod.mk.inj h
      exact LocalAllocator.next_le_of_allocateAll hslots

end BytecodeMutation
