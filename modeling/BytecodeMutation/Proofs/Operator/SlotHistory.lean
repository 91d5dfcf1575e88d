import BytecodeMutation.Proofs.Operator.FreshLocals

/-! Histories of an allocator: requests for slots, some of which are refused. The slots that are
granted are those from the first free one up to the next free one, in order, none of them twice and
none left out. A refusal reserves nothing, so a narrower request can succeed after it. -/

namespace BytecodeMutation

/-- Slots that were granted together. -/
structure SlotRange where
  first : UInt16
  width : Nat
  deriving DecidableEq

def SlotRange.slots (r : SlotRange) : List Nat := List.range' r.first.toNat r.width

namespace LocalAllocator

/-- The allocator after a request for a width; a refused one leaves it as it was. -/
def after (a : LocalAllocator) (width : Nat) : LocalAllocator :=
  match a.allocate width with
  | .ok (_, b) => b
  | .error _ => a

def run (a : LocalAllocator) (widths : List Nat) : LocalAllocator := widths.foldl after a

theorem run_cons (a : LocalAllocator) (width : Nat) (widths : List Nat) :
    a.run (width :: widths) = (a.after width).run widths := rfl

/-- What is granted to requests one after the other. -/
def granted : LocalAllocator → List Nat → List SlotRange
  | _, [] => []
  | a, width :: widths =>
    match a.allocate width with
    | .ok (first, b) => ⟨first, width⟩ :: granted b widths
    | .error _ => granted a widths

section Request

variable {a : LocalAllocator} {width : Nat}

theorem allocate_eq_ok_after (h : a.next.toNat + width ≤ 65535) :
    a.allocate width = .ok (a.next, a.after width) ∧
      (a.after width).next.toNat = a.next.toNat + width := by
  obtain ⟨b, hb, hnext⟩ := allocate_fits h
  rw [after, hb]
  exact ⟨rfl, hnext⟩

theorem after_overflow (h : 65535 < a.next.toNat + width) : a.after width = a := by
  rw [after, allocate_overflows h]

theorem allocate_eq_error_iff {e : BodyError} :
    a.allocate width = .error e ↔
      e = .frameOverflow .maxLocals ∧ 65535 < a.next.toNat + width := by
  constructor
  · intro h
    by_cases hfit : a.next.toNat + width ≤ 65535
    · rw [(allocate_eq_ok_after hfit).1] at h
      cases h
    · rw [allocate_overflows (by omega)] at h
      exact ⟨(Except.error.inj h).symm, by omega⟩
  · rintro ⟨rfl, hover⟩
    exact allocate_overflows hover

theorem granted_cons_fits (h : a.next.toNat + width ≤ 65535) (widths : List Nat) :
    a.granted (width :: widths) = ⟨a.next, width⟩ :: (a.after width).granted widths := by
  rw [granted, (allocate_eq_ok_after h).1]

theorem granted_cons_overflow (h : 65535 < a.next.toNat + width) (widths : List Nat) :
    a.granted (width :: widths) = a.granted widths := by
  rw [granted, allocate_overflows h]

end Request

/-- The ranges that are granted start at the next free slot, each where the one before it ended, and
the new next free slot is where the last of them ends. -/
theorem granted_follow (a : LocalAllocator) (widths : List Nat) :
    (a.granted widths).map (·.first.toNat) =
        slotsFrom a.next.toNat ((a.granted widths).map SlotRange.width) ∧
      (a.run widths).next.toNat =
        a.next.toNat + ((a.granted widths).map SlotRange.width).sum := by
  induction widths generalizing a with
  | nil => exact ⟨rfl, rfl⟩
  | cons width widths ih =>
    by_cases hfit : a.next.toNat + width ≤ 65535
    · obtain ⟨hfirst, hlast⟩ := ih (a.after width)
      rw [(allocate_eq_ok_after hfit).2] at hfirst hlast
      rw [run_cons, granted_cons_fits hfit, List.map_cons, List.map_cons, slotsFrom, List.sum_cons,
        hfirst, hlast, Nat.add_assoc]
      exact ⟨rfl, rfl⟩
    · have hover : 65535 < a.next.toNat + width := by omega
      rw [run_cons, after_overflow hover, granted_cons_overflow hover]
      exact ih a

end LocalAllocator

/-- The slots of ranges that follow on each other are, in order, those of one long range. -/
theorem SlotRange.flatMap_slots {n : Nat} {ranges : List SlotRange}
    (h : ranges.map (·.first.toNat) = LocalAllocator.slotsFrom n (ranges.map width)) :
    ranges.flatMap slots = List.range' n (ranges.map width).sum := by
  induction ranges generalizing n with
  | nil => rfl
  | cons r ranges ih =>
    obtain ⟨hfirst, hrest⟩ := List.cons.inj h
    obtain rfl : r.first.toNat = n := hfirst
    rw [List.flatMap_cons, ih hrest, List.map_cons, List.sum_cons, slots, List.range'_append_1]

namespace LocalAllocator

/-- After any requests, one more is refused exactly if the next free slot plus its width exceeds
65535, always for the same reason, and then nothing changes; otherwise it is granted from the next
free slot on. Each range that was granted starts where the one before it ended, and together they
are the interval from the first free slot to the next free one; none of them reaches below the first
free slot or above slot 65534. -/
theorem granted_slots_tile (a : LocalAllocator) (widths : List Nat) :
    let b := a.run widths
    let ranges := a.granted widths
    (∀ width,
      (∀ e, b.allocate width = .error e ↔
        e = .frameOverflow .maxLocals ∧ 65535 < b.next.toNat + width) ∧
      (65535 < b.next.toNat + width → b.after width = b) ∧
      (b.next.toNat + width ≤ 65535 → b.allocate width = .ok (b.next, b.after width) ∧
        (b.after width).next.toNat = b.next.toNat + width)) ∧
    ranges.map (·.first.toNat) = slotsFrom a.next.toNat (ranges.map SlotRange.width) ∧
    a.next ≤ b.next ∧
    ranges.flatMap SlotRange.slots =
      List.range' a.next.toNat (b.next.toNat - a.next.toNat) ∧
    ∀ r ∈ ranges, ∀ slot ∈ r.slots, a.next.toNat ≤ slot ∧ slot ≤ 65534 := by
  intro b ranges
  obtain ⟨hfirst, hnext⟩ := granted_follow a widths
  have hcovered : ranges.flatMap SlotRange.slots =
      List.range' a.next.toNat (b.next.toNat - a.next.toNat) := by
    rw [hnext, Nat.add_sub_cancel_left]
    exact SlotRange.flatMap_slots hfirst
  refine ⟨fun width => ⟨fun e => allocate_eq_error_iff, after_overflow, allocate_eq_ok_after⟩,
    hfirst, ?_, hcovered, fun r hr slot hslot => ?_⟩
  · rw [UInt16.le_iff_toNat_le, hnext]
    exact Nat.le_add_right _ _
  · have hmem : slot ∈ List.range' a.next.toNat (b.next.toNat - a.next.toNat) :=
      hcovered ▸ List.mem_flatMap_of_mem hr hslot
    have hlimit := b.next.toNat_lt
    rw [List.mem_range'_1] at hmem
    omega

/-- Where two slots are left, three are refused and two are granted afterwards; then only a range
without slots is. -/
example :
    (⟨65532⟩ : LocalAllocator).granted [1, 3, 2, 1, 0] =
        [⟨65532, 1⟩, ⟨65533, 2⟩, ⟨65535, 0⟩] ∧
      (⟨65532⟩ : LocalAllocator).run [1, 3, 2, 1, 0] = ⟨65535⟩ := by
  decide

end LocalAllocator

end BytecodeMutation
