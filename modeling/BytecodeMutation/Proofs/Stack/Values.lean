import BytecodeMutation.Proofs.Stack.Reached

/-! The values on a stack before and after a rearrangement. On whole values every form of every
instruction is executed: the values that it takes are put back in its order, and those below
stay. -/

namespace BytecodeMutation

theorem Form.arrange_map {α β : Type} (form : Form) (f : α → β) (top : List α) :
    form.arrange (top.map f) = (form.arrange top).map f := by
  simp [arrange, List.map_filterMap]

namespace SymbolicStack

/-- Whole values are read off at their lowest slots. -/
theorem valuesOf_slotsOf {vs : List Slot} (hvs : ∀ v ∈ vs, 0 < v.width) :
    valuesOf (slotsOf vs) = vs.map Slot.value := by
  induction vs with
  | nil => rw [slotsOf_nil, valuesOf, List.map_nil]
  | cons v vs ih =>
    obtain ⟨w, hw⟩ := Nat.exists_eq_add_one.2 (hvs v List.mem_cons_self)
    have hslots : slotsOf (v :: vs) = v :: (List.replicate w v ++ slotsOf vs) := by
      rw [slotsOf_cons, hw, List.replicate_succ, List.cons_append]
    have hrest : (List.replicate w v ++ slotsOf vs).drop (v.width - 1) = slotsOf vs := by
      rw [hw, Nat.add_sub_cancel]
      exact List.drop_left' List.length_replicate
    rw [hslots, valuesOf, hrest, ih fun u hu => hvs u (List.mem_cons_of_mem v hu), List.map_cons]

theorem forms_eq_nil {i : Instruction} (hi : i.shuffle? = none) : i.forms = [] := by
  cases i <;> cases hi <;> rfl

/-- If the values on top are as wide as a form of the instruction has them, the instruction is
accepted, and then those values lie there as the form arranges them, over the same values as
before. -/
theorem form_is_executed {s : SymbolicStack} {below top : List Slot}
    (hs : s.slots = slotsOf (below ++ top)) (hbelow : ∀ v ∈ below, v.width = 1 ∨ v.width = 2)
    {i : Instruction} {form : Form} (hform : form ∈ i.forms)
    (htop : top.map Slot.width = form.widths) :
    s.values = below.map Slot.value ++ top.map Slot.value ∧
      ∃ t, apply i s = (.ok (), t) ∧ t.slots = slotsOf (below ++ form.arrange top) ∧
        t.values = below.map Slot.value ++ form.arrange (top.map Slot.value) := by
  cases hi : i.shuffle? with
  | none =>
    rw [forms_eq_nil hi] at hform
    cases hform
  | some shuffle =>
    have hpos : ∀ v ∈ below ++ top, 0 < v.width := fun v hv => by
      have hwidth : v.width = 1 ∨ v.width = 2 := by
        rcases List.mem_append.1 hv with hv | hv
        · exact hbelow v hv
        · exact width_of_mem_forms hi form hform _ (htop ▸ List.mem_map_of_mem hv)
      omega
    have harranged : ∀ v ∈ below ++ form.arrange top, 0 < v.width := fun v hv =>
      hpos v (Form.mem_of_mem_append_arrange hv)
    obtain ⟨slots, next⟩ := s
    obtain rfl : slots = slotsOf (below ++ top) := hs
    refine ⟨?_, _, apply_form hi hform htop below next, rfl, ?_⟩
    · rw [values, valuesOf_slotsOf hpos, List.map_append]
    · rw [values, valuesOf_slotsOf harranged, List.map_append, Form.arrange_map]

/-- Two copies of a narrow value are duplicated under a wide value that lies on a third copy. -/
theorem dup2X2_over_copies_is_executed :
    let below : List Slot := [⟨0, 1⟩]
    let top : List Slot := [⟨1, 2⟩, ⟨0, 1⟩, ⟨0, 1⟩]
    let s : SymbolicStack := ⟨slotsOf (below ++ top), 2⟩
    (∀ v ∈ below, v.width = 1 ∨ v.width = 2) ∧
      ⟨[2, 1, 1], [1, 2, 0, 1, 2]⟩ ∈ Instruction.dup2X2.forms ∧ s.values = [0, 1, 0, 0] ∧
      ∃ t, apply .dup2X2 s = (.ok (), t) ∧ t.values = [0, 0, 0, 1, 0, 0] := by
  intro below top s
  have hbelow : ∀ v ∈ below, v.width = 1 ∨ v.width = 2 := by decide
  have hform : ⟨[2, 1, 1], [1, 2, 0, 1, 2]⟩ ∈ Instruction.dup2X2.forms := by decide
  have hslots : s.slots = slotsOf (below ++ top) := rfl
  obtain ⟨hvalues, t, happly, -, hvalues'⟩ := form_is_executed hslots hbelow hform rfl
  exact ⟨hbelow, hform, hvalues, t, happly, hvalues'⟩

end SymbolicStack

end BytecodeMutation
