import BytecodeMutation.Stack.Symbolic
import Mathlib.Algebra.Ring.Nat
import Mathlib.Data.List.Infix

/-! Whole values on the symbolic stack. The slots of whole values lie one after the other, as many
for each value as it is wide. The scan for split values is passed by the top slots exactly when the
cut below them lies between two values. -/

namespace BytecodeMutation.SymbolicStack

/-- The slots of values that lie one after the other. Every slot of a value stands for the value. -/
def slotsOf (vs : List Slot) : List Slot := vs.flatMap fun v => List.replicate v.width v

@[simp] theorem slotsOf_nil : slotsOf [] = [] := rfl

@[simp] theorem slotsOf_cons (v : Slot) (vs : List Slot) :
    slotsOf (v :: vs) = List.replicate v.width v ++ slotsOf vs := rfl

@[simp] theorem slotsOf_append (vs ws : List Slot) :
    slotsOf (vs ++ ws) = slotsOf vs ++ slotsOf ws := List.flatMap_append

theorem length_slotsOf (vs : List Slot) : (slotsOf vs).length = (vs.map Slot.width).sum := by
  simp [slotsOf, List.length_flatMap]

/-- Values that take slots, of which equal numbers stand for the same one. -/
structure Proper (vs : List Slot) : Prop where
  pos : ∀ v ∈ vs, 0 < v.width
  eq_of_value_eq : ∀ v ∈ vs, ∀ w ∈ vs, v.value = w.value → v = w

theorem Proper.of_subset {vs ws : List Slot} (h : Proper vs) (hsub : ∀ v ∈ ws, v ∈ vs) :
    Proper ws :=
  ⟨fun v hv => h.pos v (hsub v hv),
    fun v hv w hw => h.eq_of_value_eq v (hsub v hv) w (hsub w hw)⟩

/-- The values can be read off their slots, so what follows known values is known. -/
theorem exists_append_of_slotsOf_eq {vs below : List Slot} {slots : List Slot}
    (hvs : ∀ v ∈ vs, 0 < v.width) (hbelow : ∀ v ∈ below, 0 < v.width)
    (h : slotsOf vs = slotsOf below ++ slots) :
    ∃ top, vs = below ++ top ∧ slotsOf top = slots := by
  induction below generalizing vs with
  | nil => exact ⟨vs, rfl, h⟩
  | cons v below ih =>
    obtain ⟨w, hw⟩ := Nat.exists_eq_add_one.2 (hbelow v List.mem_cons_self)
    cases vs with
    | nil => simp [hw, List.replicate_succ] at h
    | cons u vs =>
      obtain ⟨x, hx⟩ := Nat.exists_eq_add_one.2 (hvs u List.mem_cons_self)
      have huv : u = v := by
        simp only [slotsOf_cons, hw, hx, List.replicate_succ, List.cons_append] at h
        exact (List.cons.inj h).1
      subst huv
      rw [slotsOf_cons, slotsOf_cons, List.append_assoc] at h
      obtain ⟨top, rfl, htop⟩ := ih (fun v hv => hvs v (List.mem_cons_of_mem u hv))
        (fun v hv => hbelow v (List.mem_cons_of_mem u hv)) (List.append_cancel_left h)
      exact ⟨top, rfl, htop⟩

/-! ### Cuts -/

/-- A cut lies between two values or inside of one. -/
theorem slotsOf_cut (vs : List Slot) {m : Nat} (hm : m ≤ (slotsOf vs).length) :
    (∃ below top, vs = below ++ top ∧ (slotsOf below).length = m) ∨
      ∃ below v top k, vs = below ++ v :: top ∧ 0 < k ∧ k < v.width ∧
        (slotsOf vs).drop m = List.replicate k v ++ slotsOf top := by
  induction vs generalizing m with
  | nil => exact .inl ⟨[], [], rfl, (Nat.le_zero.1 hm).symm⟩
  | cons v vs ih =>
    by_cases hzero : m = 0
    · exact .inl ⟨[], v :: vs, rfl, hzero.symm⟩
    by_cases hlt : m < v.width
    · refine .inr ⟨[], v, vs, v.width - m, rfl, by omega, by omega, ?_⟩
      rw [slotsOf_cons, List.drop_append_of_le_length (by simp; omega), List.drop_replicate]
    · rw [slotsOf_cons, List.length_append, List.length_replicate] at hm
      have hdrop : (slotsOf (v :: vs)).drop m = (slotsOf vs).drop (m - v.width) := by
        rw [slotsOf_cons, List.drop_append, List.length_replicate,
          List.drop_eq_nil_of_le (by simp; omega), List.nil_append]
      rcases ih (m := m - v.width) (by omega) with
        ⟨below, top, rfl, hlength⟩ | ⟨below, u, top, k, rfl, hpos, hk, hrest⟩
      · refine .inl ⟨v :: below, top, rfl, ?_⟩
        rw [slotsOf_cons, List.length_append, List.length_replicate, hlength]
        omega
      · exact .inr ⟨v :: below, u, top, k, rfl, hpos, hk, hdrop.trans hrest⟩

/-! ### The scan -/

theorem splitWidth?_slotsOf_cons (narrow : Bool) {v : Slot} (hv : 0 < v.width) (vs : List Slot) :
    splitWidth? narrow (slotsOf (v :: vs)) =
      if narrow && v.width != 1 then some v.width else splitWidth? narrow (slotsOf vs) := by
  obtain ⟨w, hw⟩ := Nat.exists_eq_add_one.2 hv
  have hslots : slotsOf (v :: vs) = v :: (List.replicate w v ++ slotsOf vs) := by
    rw [slotsOf_cons, hw, List.replicate_succ, List.cons_append]
  rw [hslots, splitWidth?, hw]
  simp

/-- Whole values pass the scan, if they are narrow where that is asked. -/
theorem splitWidth?_slotsOf {narrow : Bool} {vs : List Slot} (hvs : ∀ v ∈ vs, 0 < v.width) :
    splitWidth? narrow (slotsOf vs) = none ↔ (narrow = true → ∀ v ∈ vs, v.width = 1) := by
  induction vs with
  | nil => simp [splitWidth?]
  | cons v vs ih =>
    have hrest := ih fun u hu => hvs u (List.mem_cons_of_mem v hu)
    rw [splitWidth?_slotsOf_cons narrow (hvs v List.mem_cons_self)]
    cases narrow <;> by_cases hv : v.width = 1 <;> simp_all

/-- What begins with a part of a value does not pass. It could only be mistaken for the whole value
if another copy of it followed, and then a part of that copy would be left. -/
theorem splitWidth?_part {narrow : Bool} {v : Slot} {vs : List Slot} {k : Nat} (hpos : 0 < k)
    (hk : k < v.width) (h : Proper (v :: vs)) :
    splitWidth? narrow (List.replicate k v ++ slotsOf vs) ≠ none := by
  induction vs with
  | nil =>
    obtain ⟨j, rfl⟩ := Nat.exists_eq_add_one.2 hpos
    rw [slotsOf_nil, List.append_nil, List.replicate_succ, splitWidth?]
    have hshort : ¬ v.width ≤ j + 1 := by omega
    simp [hshort]
  | cons u vs ih =>
    obtain ⟨j, rfl⟩ := Nat.exists_eq_add_one.2 hpos
    rw [List.replicate_succ, List.cons_append, splitWidth?]
    split
    · exact Option.some_ne_none _
    · rename_i hpass
      simp only [Bool.or_eq_true, Bool.not_eq_true', not_or, Bool.not_eq_false,
        Bool.and_eq_true, List.all_eq_true, beq_iff_eq] at hpass
      obtain ⟨⟨-, hsame⟩, -⟩ := hpass
      obtain ⟨x, hx⟩ := Nat.exists_eq_add_one.2 (h.pos u (by simp))
      -- the slot after the part is the first one of `u`
      have hmem : u ∈ (v :: (List.replicate j v ++ slotsOf (u :: vs))).take v.width := by
        refine List.mem_of_getElem? (i := j + 1) ?_
        rw [List.getElem?_take_of_lt hk, List.getElem?_cons_succ,
          List.getElem?_append_right (by simp), List.length_replicate, Nat.sub_self, slotsOf_cons,
          hx, List.replicate_succ]
        rfl
      have huv : u = v := h.eq_of_value_eq u (by simp) v (by simp) (hsame u hmem)
      subst huv
      have hdrop : (List.replicate j u ++ slotsOf (u :: vs)).drop (u.width - 1) =
          List.replicate (j + 1) u ++ slotsOf vs := by
        rw [slotsOf_cons, ← List.append_assoc, List.replicate_append_replicate,
          List.drop_append_of_le_length (by simp; omega), List.drop_replicate]
        congr 2
        omega
      rw [hdrop]
      exact ih (h.of_subset fun w hw => List.mem_cons_of_mem u hw)

/-- The top slots of whole values pass the scan exactly when the cut lies between two values. -/
theorem splitWidth?_drop {narrow : Bool} {vs : List Slot} (h : Proper vs) {m : Nat}
    (hm : m ≤ (slotsOf vs).length) :
    splitWidth? narrow ((slotsOf vs).drop m) = none ↔
      ∃ below top, vs = below ++ top ∧ (slotsOf below).length = m ∧
        (narrow = true → ∀ v ∈ top, v.width = 1) := by
  constructor
  · intro hscan
    rcases slotsOf_cut vs hm with ⟨below, top, rfl, rfl⟩ | ⟨below, v, top, k, rfl, hpos, hk, hdrop⟩
    · rw [slotsOf_append, List.drop_left] at hscan
      refine ⟨below, top, rfl, rfl, (splitWidth?_slotsOf fun v hv => ?_).1 hscan⟩
      exact h.pos v (List.mem_append_right below hv)
    · rw [hdrop] at hscan
      have hproper := h.of_subset fun w hw => List.mem_append_right below hw
      exact absurd hscan (splitWidth?_part hpos hk hproper)
  · rintro ⟨below, top, rfl, rfl, hnarrow⟩
    rw [slotsOf_append, List.drop_left]
    exact (splitWidth?_slotsOf fun v hv => h.pos v (List.mem_append_right below hv)).2 hnarrow

/-! ### Boundaries -/

theorem checkBoundaries_eq_ok {narrow : Bool} {slots : List Slot} {i : Instruction} :
    checkBoundaries narrow slots i = .ok () ↔ splitWidth? narrow slots = none := by
  unfold checkBoundaries
  split <;> simp_all

/-- Whole values of any widths lie on the stack, those of one number equally wide. The top slots
pass the check exactly if the cut below them lies between two values, so that the values above it
fill these slots. If narrow values are asked for, those above the cut must be narrow. -/
theorem cut_passes_iff_between_values {s : SymbolicStack} {vs : List Slot}
    (hslots : s.slots = slotsOf vs) (hpos : ∀ v ∈ vs, 0 < v.width)
    (hwidth : ∀ v ∈ vs, ∀ w ∈ vs, v.value = w.value → v.width = w.width)
    {n : Nat} (hn : n ≤ s.depth) :
    ∃ slots below, s.take? n = some (slots, below) ∧ slots.length = n ∧
      s.slots = below.slots ++ slots ∧
      ∀ (narrow : Bool) (i : Instruction), checkBoundaries narrow slots i = .ok () ↔
        ∃ top, top <:+ vs ∧ (slotsOf top).length = n ∧
          (narrow = true → ∀ v ∈ top, v.width = 1) := by
  have hproper : Proper vs := by
    refine ⟨hpos, fun v hv w hw hvalue => ?_⟩
    have hsame := hwidth v hv w hw hvalue
    cases v
    cases w
    exact congrArg₂ Slot.mk hvalue hsame
  have hlength : s.depth = (slotsOf vs).length := congrArg List.length hslots
  refine ⟨_, _, if_pos hn, ?_, (List.take_append_drop _ _).symm, fun narrow i => ?_⟩
  · rw [List.length_drop]
    exact Nat.sub_sub_self hn
  rw [checkBoundaries_eq_ok, hslots, splitWidth?_drop hproper (Nat.sub_le _ _)]
  constructor
  · rintro ⟨below, top, rfl, hbelow, hnarrow⟩
    refine ⟨top, List.suffix_append below top, ?_, hnarrow⟩
    rw [slotsOf_append, List.length_append] at hlength hbelow
    omega
  · rintro ⟨top, ⟨below, rfl⟩, htop, hnarrow⟩
    refine ⟨below, top, rfl, ?_, hnarrow⟩
    rw [slotsOf_append, List.length_append] at hlength ⊢
    omega

/-- A cut inside of one of three copies of a value, and a cut between two of them. -/
theorem cut_copy_is_refused :
    let vs : List Slot := [⟨0, 1⟩, ⟨1, 3⟩, ⟨1, 3⟩, ⟨1, 3⟩]
    let s : SymbolicStack := ⟨slotsOf vs, 2⟩
    (∀ v ∈ vs, 0 < v.width) ∧ (∀ v ∈ vs, ∀ w ∈ vs, v.value = w.value → v.width = w.width) ∧
      8 ≤ s.depth ∧ 6 ≤ s.depth ∧
      (∃ slots below, s.take? 8 = some (slots, below) ∧
        checkBoundaries false slots .pop2 ≠ .ok ()) ∧
      ∃ slots below, s.take? 6 = some (slots, below) ∧
        checkBoundaries false slots .pop2 = .ok () ∧ checkBoundaries true slots .pop2 ≠ .ok () := by
  intro vs s
  have hpos : ∀ v ∈ vs, 0 < v.width := by decide
  have hwidth : ∀ v ∈ vs, ∀ w ∈ vs, v.value = w.value → v.width = w.width := by decide
  have hinside : 8 ≤ s.depth := by decide
  have hbetween : 6 ≤ s.depth := by decide
  have hnone : ∀ top ∈ vs.tails, (slotsOf top).length ≠ 8 := by decide
  have hwide : ∀ top ∈ vs.tails, (slotsOf top).length = 6 → ¬ ∀ v ∈ top, v.width = 1 := by decide
  refine ⟨hpos, hwidth, hinside, hbetween, ?_, ?_⟩
  · obtain ⟨slots, below, htake, -, -, hpass⟩ :=
      cut_passes_iff_between_values rfl hpos hwidth hinside
    refine ⟨slots, below, htake, fun h => ?_⟩
    obtain ⟨top, htop, hlength, -⟩ := (hpass false .pop2).1 h
    exact hnone top ((List.mem_tails _ _).2 htop) hlength
  · obtain ⟨slots, below, htake, -, -, hpass⟩ :=
      cut_passes_iff_between_values rfl hpos hwidth hbetween
    refine ⟨slots, below, htake, (hpass false .pop2).2 ⟨vs.drop 2, ?_, rfl, nofun⟩, fun h => ?_⟩
    · exact List.drop_suffix 2 vs
    · obtain ⟨top, htop, hlength, hnarrow⟩ := (hpass true .pop2).1 h
      exact hwide top ((List.mem_tails _ _).2 htop) hlength (hnarrow rfl)

end BytecodeMutation.SymbolicStack
