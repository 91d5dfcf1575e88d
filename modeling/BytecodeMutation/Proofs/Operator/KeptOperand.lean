import BytecodeMutation.Proofs.Operator.Candidates
import BytecodeMutation.Proofs.Stack.Values

/-! Runs of rearrangements, and the operand that an elimination keeps. What a run does to the values
on top of the stack it does over any values below them, so what the check of an elimination finds on
one small stack holds of all stacks. -/

namespace BytecodeMutation

namespace SymbolicStack

/-- Instructions that rearrange values one after the other, each in one of its forms: the values
before the run and those after it, from the lowest one on. -/
inductive Rearranges : List Instruction → List Slot → List Slot → Prop
  | nil (vs : List Slot) : Rearranges [] vs vs
  | cons {i : Instruction} {is : List Instruction} {ws : List Slot} (form : Form)
      (untouched top : List Slot) : form ∈ i.forms → top.map Slot.width = form.widths →
      Rearranges is (untouched ++ form.arrange top) ws → Rearranges (i :: is) (untouched ++ top) ws

theorem applyAll_cons_of_ok {i : Instruction} {is : List Instruction} {s t : SymbolicStack}
    (h : apply i s = (.ok (), t)) : applyAll (i :: is) s = applyAll is t := by
  rw [applyAll, h]

theorem shuffle?_of_mem_forms {i : Instruction} {form : Form} (h : form ∈ i.forms) :
    ∃ shuffle, i.shuffle? = some shuffle := by
  cases hi : i.shuffle? with
  | none =>
    rw [forms_eq_nil hi] at h
    cases h
  | some shuffle => exact ⟨shuffle, rfl⟩

/-- A run of rearrangements is accepted whatever lies below its values, and leaves that alone. -/
theorem Rearranges.applyAll {is : List Instruction} {vs ws : List Slot} (h : Rearranges is vs ws)
    (below : List Slot) (next : Nat) :
    applyAll is ⟨slotsOf (below ++ vs), next⟩ = (.ok (), ⟨slotsOf (below ++ ws), next⟩) := by
  induction h with
  | nil vs => rfl
  | @cons i is ws form untouched top hform htop _ ih =>
    obtain ⟨shuffle, hi⟩ := shuffle?_of_mem_forms hform
    rw [← List.append_assoc, applyAll_cons_of_ok (apply_form hi hform htop _ next),
      List.append_assoc]
    exact ih

end SymbolicStack

theorem NumericType.width_cases (t : NumericType) : t.width = 1 ∨ t.width = 2 := by
  cases t <;> decide

namespace RemovedOperand

open SymbolicStack

/-- The operand that stays. -/
def kept {α : Type} : RemovedOperand → α → α → α
  | first, _, y => y
  | last, x, _ => x

theorem width_kept (removed : RemovedOperand) {width : Nat} {x y : Slot} (hx : x.width = width)
    (hy : y.width = width) : (removed.kept x y).width = width := by
  cases removed
  · exact hy
  · exact hx

/-- Both operands are as wide as the sequence is made for, and it leaves one of them. -/
theorem rearranges_sequence (removed : RemovedOperand) {width : Nat}
    (hwidth : width = 1 ∨ width = 2) {x y : Slot} (hx : x.width = width) (hy : y.width = width) :
    Rearranges (removed.sequence width) [x, y] [removed.kept x y] := by
  rcases hwidth with rfl | rfl <;> cases removed
  case inl.first =>
    refine .cons ⟨[1, 1], [1, 0]⟩ [] [x, y] (by decide) (by simp [hx, hy]) ?_
    exact .cons ⟨[1], []⟩ [y] [x] (by decide) (by simp [hx]) (.nil [y])
  case inl.last =>
    exact .cons ⟨[1], []⟩ [x] [y] (by decide) (by simp [hy]) (.nil [x])
  case inr.first =>
    -- the last operand is copied below the first one, and both originals are dropped
    refine .cons ⟨[2, 2], [1, 0, 1]⟩ [] [x, y] (by decide) (by simp [hx, hy]) ?_
    refine .cons ⟨[2], []⟩ [y, x] [y] (by decide) (by simp [hy]) ?_
    exact .cons ⟨[2], []⟩ [y] [x] (by decide) (by simp [hx]) (.nil [y])
  case inr.last =>
    exact .cons ⟨[2], []⟩ [x] [y] (by decide) (by simp [hy]) (.nil [x])

/-- An operand of an arithmetic operation can always be eliminated, and the code for it takes the
operand off every stack that ends with the two: the other one then lies over the values below. -/
theorem elimination_keeps_other_operand (removed : RemovedOperand) (op : ArithmeticOp)
    (t : NumericType) (context : InstructionContext) (a : LocalAllocator) {s : SymbolicStack}
    {below : List Slot} {x y : Slot} (hs : s.slots = slotsOf (below ++ [x, y]))
    (hbelow : ∀ v ∈ below, v.width = 1 ∨ v.width = 2) (hx : x.width = t.width)
    (hy : y.width = t.width) :
    s.values = below.map Slot.value ++ [x.value, y.value] ∧
      ∃ r code after, (Operator.elimination removed).candidate? context (.arith op t) = some r ∧
        r.emission.emit a = (.ok code, a) ∧ applyAll code s = (.ok (), after) ∧
        after.slots = slotsOf (below ++ [removed.kept x y]) ∧
        after.values = below.map Slot.value ++ [(removed.kept x y).value] := by
  have hpos : ∀ w, w = 1 ∨ w = 2 → 0 < w := by omega
  have hwidth : 0 < t.width := hpos _ t.width_cases
  have hbelow' : ∀ v ∈ below, 0 < v.width := fun v hv => hpos _ (hbelow v hv)
  have hoperands : ∀ v ∈ below ++ [x, y], 0 < v.width :=
    List.forall_mem_append.2 ⟨hbelow', by simp [hx, hy, hwidth]⟩
  have hkept : ∀ v ∈ below ++ [removed.kept x y], 0 < v.width :=
    List.forall_mem_append.2 ⟨hbelow', by simp [removed.width_kept hx hy, hwidth]⟩
  obtain ⟨slots, next⟩ := s
  obtain rfl : slots = slotsOf (below ++ [x, y]) := hs
  refine ⟨?_, _, removed.sequence t.width, _, rfl, ?_,
    (removed.rearranges_sequence t.width_cases hx hy).applyAll below next, rfl, ?_⟩
  · rw [values, valuesOf_slotsOf hoperands, List.map_append]
    rfl
  · simp only [Emission.emit, removed.prove_sequence, ok_map]
  · rw [values, valuesOf_slotsOf hkept, List.map_append]
    rfl

/-- The first of two longs is thrown away over a copy of the second one. -/
theorem first_long_is_eliminated :
    let s : SymbolicStack := ⟨slotsOf ([⟨0, 1⟩, ⟨2, 2⟩] ++ [⟨1, 2⟩, ⟨2, 2⟩]), 3⟩
    s.values = [0, 2, 1, 2] ∧
      ∃ r code after,
        (Operator.elimination .first).candidate? ⟨default, none⟩ (.arith .div .long) = some r ∧
        r.emission.emit ⟨0⟩ = (.ok code, ⟨0⟩) ∧ applyAll code s = (.ok (), after) ∧
        after.values = [0, 2, 2] := by
  intro s
  have hbelow : ∀ v ∈ ([⟨0, 1⟩, ⟨2, 2⟩] : List Slot), v.width = 1 ∨ v.width = 2 := by decide
  obtain ⟨hvalues, r, code, after, hr, hcode, happly, -, hafter⟩ :=
    elimination_keeps_other_operand .first .div .long ⟨default, none⟩ ⟨0⟩ (s := s) rfl hbelow rfl
      rfl
  exact ⟨hvalues, r, code, after, hr, hcode, happly, hafter⟩

end RemovedOperand

end BytecodeMutation
