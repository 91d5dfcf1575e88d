import BytecodeMutation.Operator.Basic
import BytecodeMutation.Proofs.Operator.StandIn
import Mathlib.Algebra.Order.BigOperators.Group.List
import Mathlib.Algebra.Order.Group.Nat

/-! A redirected call stands in for the call that it replaces. Its code takes the old arguments off
the stack before it puts the new ones on, so it never reaches below the old arguments and grows the
stack by no more than the new ones. -/

namespace BytecodeMutation

/-- The slot of the receiver of a call, if there is one. -/
def MethodRef.receiverSlots (m : MethodRef) : Nat := if m.kind.hasReceiver then 1 else 0

theorem Instruction.stackEffect_invoke (m : MethodRef) : (invoke m).stackEffect =
    ⟨m.descriptor.argumentSlots + m.receiverSlots, m.descriptor.ret.width⟩ := rfl

namespace Within

variable {α : Type} {f : α → List Instruction} {w : α → Nat} {xs : List α}

/-- Parts that each take something off the stack. -/
theorem flatMap_takes {high : Int} (hhigh : 0 ≤ high)
    (h : ∀ x ∈ xs, Within (f x) (-(w x : Int)) (-(w x : Int)) high) :
    Within (xs.flatMap f) (-((xs.map w).sum : Int)) (-((xs.map w).sum : Int)) high := by
  induction xs with
  | nil => exact nil.weaken rfl (Int.le_refl 0) hhigh
  | cons x xs ih =>
    have hrest := ih fun y hy => h y (List.mem_cons_of_mem x hy)
    rw [List.flatMap_cons, List.map_cons, List.sum_cons]
    refine ((h x List.mem_cons_self).append hrest).weaken ?_ ?_ ?_ <;> omega

/-- Parts that each leave the stack as deep as it was. -/
theorem flatMap_keeps {high : Int} (hhigh : 0 ≤ high) (h : ∀ x ∈ xs, Within (f x) 0 0 high) :
    Within (xs.flatMap f) 0 0 high := by
  induction xs with
  | nil => exact nil.weaken rfl (Int.le_refl 0) hhigh
  | cons x xs ih =>
    have hrest := ih fun y hy => h y (List.mem_cons_of_mem x hy)
    rw [List.flatMap_cons]
    refine ((h x List.mem_cons_self).append hrest).weaken ?_ ?_ ?_ <;> omega

/-- Instructions that each put something on the stack. -/
theorem map_puts {g : α → Instruction} (h : ∀ x ∈ xs, (g x).stackEffect = ⟨0, w x⟩) :
    Within (xs.map g) (xs.map w).sum 0 (xs.map w).sum := by
  induction xs with
  | nil => exact nil
  | cons x xs ih =>
    have hrest := ih fun y hy => h y (List.mem_cons_of_mem x hy)
    have hx := single (g x)
    rw [h x List.mem_cons_self] at hx
    rw [List.map_cons, List.map_cons, List.sum_cons]
    refine (hx.append hrest).weaken ?_ ?_ ?_ <;> simp only <;> omega

end Within

namespace Redirection

open Instruction

/-! ### Depths -/

/-- The slots that are dropped with a value; void still costs one. -/
def dropWidth (t : ValueType) : Nat := if t.width = 2 then 2 else 1

theorem stackEffect_drop (t : ValueType) : (drop t).stackEffect = ⟨dropWidth t, 0⟩ := by
  unfold drop dropWidth
  split <;> rfl

theorem dropWidth_eq_width {t : ValueType} (h : t ≠ .void) : dropWidth t = t.width := by
  have hle := t.width_le_two
  have hpos : t.width ≠ 0 := fun hzero => h (ValueType.width_eq_zero_iff.1 hzero)
  unfold dropWidth
  split <;> omega

theorem width_le_dropWidth (t : ValueType) : t.width ≤ dropWidth t := by
  have hle := t.width_le_two
  unfold dropWidth
  split <;> omega

theorem within_drop (t : ValueType) :
    Within [drop t] (-(dropWidth t : Int)) (-(dropWidth t : Int)) 0 := by
  have h := Within.single (drop t)
  rw [stackEffect_drop] at h
  refine h.weaken ?_ ?_ ?_ <;> simp only <;> omega

theorem within_filled {q : ValueType × UInt16} (h : q.1 ≠ .void) : Within (filled q) 0 0 2 := by
  have hpush := Within.single q.1.zero
  have hstore := Within.single (.store q.1.kind q.2)
  rw [ValueType.stackEffect_zero h] at hpush
  simp only [stackEffect, ValueType.width_kind h] at hstore
  have hwidth := q.1.width_le_two
  refine (hpush.append hstore).weaken ?_ ?_ ?_ <;> simp only <;> omega

theorem within_unwound {t : ValueType} {p : Option (ValueType × UInt16)}
    (h : ∀ q, p = some q → q.1 ≠ .void) :
    Within (unwound t p) (-(dropWidth t : Int)) (-(dropWidth t : Int)) 2 := by
  cases p with
  | none => exact (within_drop t).weaken rfl (Int.le_refl _) (by decide)
  | some q =>
    obtain ⟨new, slot⟩ := q
    have hnew : new ≠ .void := h _ rfl
    simp only [unwound]
    split
    · rename_i heq
      subst heq
      have hstore := Within.single (.store new.kind slot)
      simp only [stackEffect, ValueType.width_kind hnew, ← dropWidth_eq_width hnew] at hstore
      refine hstore.weaken ?_ ?_ ?_ <;> omega
    · have hfill := within_filled (show (new, slot).1 ≠ .void from hnew)
      refine ((within_drop t).append hfill).weaken ?_ ?_ ?_ <;> omega

theorem sum_map_pairUp {α β : Type} (w : α → Nat) (as : List α) (bs : List β) :
    ((pairUp as bs).map fun q => w q.1).sum = (as.map w).sum := by
  induction as generalizing bs with
  | nil => rfl
  | cons a as ih =>
    cases bs <;> rw [pairUp, List.map_cons, List.map_cons, List.sum_cons, List.sum_cons, ih]

theorem sum_map_zip {ts : List ValueType} {slots : List UInt16} (h : slots.length = ts.length) :
    ((ts.zip slots).map fun q => q.1.width).sum = (ts.map ValueType.width).sum := by
  have hfst : (ts.zip slots).map Prod.fst = ts := List.map_fst_zip (by omega)
  have hmap := congrArg (List.map ValueType.width) hfst
  rw [List.map_map] at hmap
  exact congrArg List.sum hmap

theorem within_parked {old : List ValueType} {new : List (ValueType × UInt16)}
    (hnew : ∀ q ∈ new, q.1 ≠ .void) :
    Within ((pairUp old new).reverse.flatMap fun (t, p) => unwound t p)
      (-((old.map dropWidth).sum : Int)) (-((old.map dropWidth).sum : Int)) 2 := by
  rw [← sum_map_pairUp dropWidth old new, ← List.sum_reverse, ← List.map_reverse]
  refine Within.flatMap_takes (by decide) fun q hq => within_unwound fun r hr => ?_
  exact hnew r ((mem_of_mem_pairUp (List.mem_reverse.1 hq)).2 r hr)

/-- The depths along the code of a redirected call. -/
theorem within_redirected {old : List ValueType} {target : MethodRef} {slots : List UInt16}
    (hvoid : ValueType.void ∉ target.descriptor.params)
    (hslots : slots.length = target.descriptor.params.length) :
    Within (prologue old (target.descriptor.params.zip slots) ++ [.invoke target])
      (-((old.map dropWidth).sum : Int) - target.receiverSlots + target.descriptor.ret.width)
      (-((old.map dropWidth).sum : Int) - target.receiverSlots)
      (max 2 target.descriptor.argumentSlots) := by
  have hnew : ∀ q ∈ target.descriptor.params.zip slots, q.1 ≠ .void := by
    intro q hq hq'
    exact hvoid (hq' ▸ (List.of_mem_zip hq).1)
  have hparked := @within_parked old _ hnew
  have hadded : Within (((target.descriptor.params.zip slots).drop old.length).flatMap filled)
      0 0 2 := by
    refine Within.flatMap_keeps (by decide) fun q hq => ?_
    exact within_filled (hnew q (List.mem_of_mem_drop hq))
  have hloaded : Within ((target.descriptor.params.zip slots).map loaded)
      target.descriptor.argumentSlots 0 target.descriptor.argumentSlots := by
    rw [MethodDescriptor.argumentSlots_eq_sum, ← sum_map_zip hslots]
    refine Within.map_puts fun q hq => ?_
    simp only [loaded, stackEffect, ValueType.width_kind (hnew q hq)]
  have hcall := Within.single (.invoke target)
  rw [stackEffect_invoke] at hcall
  have hret := target.descriptor.ret.width_le_two
  have hall := ((hparked.append hadded).append hloaded).append hcall
  refine hall.weaken ?_ ?_ ?_ <;> simp only <;> omega

/-! ### Instructions -/

theorem plainBelow_drop (n : Nat) (t : ValueType) : (drop t).PlainBelow n := by
  unfold drop
  split
  · exact Instruction.plainBelow_pop2
  · exact Instruction.plainBelow_pop

theorem plainBelow_zero (n : Nat) (t : ValueType) : t.zero.PlainBelow n := by
  cases t <;> exact ⟨⟨rfl, rfl, nofun⟩, Nat.zero_le n⟩

theorem plainBelow_of_mem_prologue {old : List ValueType} {new : List (ValueType × UInt16)}
    {n : Nat} (htiles : LocalAllocator.Tiles n new) (hvoid : ∀ q ∈ new, q.1 ≠ .void)
    {j : Instruction} (h : j ∈ prologue old new) :
    j.PlainBelow (n + (new.map fun q => q.1.width).sum) := by
  have haccess : ∀ q ∈ new, q.2.toNat + q.1.kind.width ≤ n + (new.map fun q => q.1.width).sum := by
    intro q hq
    rw [ValueType.width_kind (hvoid q hq)]
    exact (htiles.mem_bounds hq).2
  rcases mem_prologue h with ⟨t, rfl⟩ | ⟨q, hq, rfl | rfl | rfl⟩
  · exact plainBelow_drop _ t
  · exact plainBelow_zero _ q.1
  · exact Instruction.plainBelow_store.2 (haccess q hq)
  · exact Instruction.plainBelow_load.2 (haccess q hq)

end Redirection

namespace StandsIn

open Instruction Redirection

variable {call target : MethodRef} {a b : LocalAllocator} {code : List Instruction}

/-- The slots that redirected code takes for the old arguments, less those of the call itself. -/
theorem depth_redirected (hkind : target.kind = call.kind)
    (hret : target.descriptor.ret = call.descriptor.ret)
    (hemit : (Emission.redirect call target).emit a = (.ok code, b)) :
    (trace code).depth = -((call.descriptor.params.map dropWidth).sum : Int) -
      call.receiverSlots + call.descriptor.ret.width := by
  obtain ⟨slots, hlength, hvoid, rfl, -, -⟩ := Emission.emit_redirect_ok hemit
  rw [(within_redirected hvoid hlength).depth_eq, hret]
  simp only [MethodRef.receiverSlots, hkind]

/-- A call that passes no void is redirected to code that stands in for it. -/
theorem redirected (hkind : target.kind = call.kind)
    (hret : target.descriptor.ret = call.descriptor.ret)
    (hcall : ValueType.void ∉ call.descriptor.params)
    (hemit : (Emission.redirect call target).emit a = (.ok code, b)) :
    StandsIn (.invoke call) code a.next.toNat b.next.toNat := by
  obtain ⟨slots, hlength, hvoid, rfl, htiles, hnext⟩ := Emission.emit_redirect_ok hemit
  have hdropped : (call.descriptor.params.map dropWidth).sum = call.descriptor.argumentSlots := by
    rw [MethodDescriptor.argumentSlots_eq_sum]
    congr 1
    refine List.map_congr_left fun t ht => dropWidth_eq_width ?_
    rintro rfl
    exact hcall ht
  have hreceiver : target.receiverSlots = call.receiverSlots := by
    simp only [MethodRef.receiverSlots, hkind]
  have hwithin := @within_redirected call.descriptor.params target slots hvoid hlength
  rw [hdropped, hreceiver, hret] at hwithin
  have hfit : target.descriptor.argumentSlots ≤ 65535 := by
    have := b.next.toNat_lt
    omega
  have hprologue : ∀ j ∈ prologue call.descriptor.params (target.descriptor.params.zip slots),
      j.PlainBelow b.next.toNat := by
    intro j hj
    rw [hnext, MethodDescriptor.argumentSlots_eq_sum, ← sum_map_zip hlength]
    refine plainBelow_of_mem_prologue htiles (fun q hq hq' => ?_) hj
    exact hvoid (hq' ▸ (List.of_mem_zip hq).1)
  refine of_within hwithin ?_ ?_ ?_ nofun (fun j hj => (hprologue j hj).1) rfl rfl nofun ?_
  · rw [stackEffect_invoke]
    simp only
    omega
  · rw [stackEffect_invoke]
    simp only
    omega
  · omega
  · intro _ j hj
    rcases List.mem_append.1 hj with hj | hj
    · exact (hprologue j hj).2
    · obtain rfl := List.mem_singleton.1 hj
      exact Nat.zero_le _

/-- Void among the old arguments would leave the stack at another depth. -/
theorem void_notMem_of_verified (hkind : target.kind = call.kind)
    (hret : target.descriptor.ret = call.descriptor.ret)
    (hemit : (Emission.redirect call target).emit a = (.ok code, b))
    (hdepth : (trace code).depth = (trace [.invoke call]).depth) :
    ValueType.void ∉ call.descriptor.params := by
  rw [depth_redirected hkind hret hemit, trace_singleton, stackEffect_invoke,
    MethodDescriptor.argumentSlots_eq_sum] at hdepth
  have hsum : (call.descriptor.params.map dropWidth).sum =
      (call.descriptor.params.map ValueType.width).sum := by
    simp only at hdepth
    omega
  intro hvoid
  have hlt : (call.descriptor.params.map ValueType.width).sum <
      (call.descriptor.params.map dropWidth).sum :=
    List.sum_lt_sum _ _ (fun t _ => width_le_dropWidth t) ⟨.void, hvoid, by decide⟩
  omega

end StandsIn

end BytecodeMutation
