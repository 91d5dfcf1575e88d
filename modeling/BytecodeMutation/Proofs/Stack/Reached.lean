import BytecodeMutation.Proofs.Stack.Forms
import Mathlib.Data.List.Basic

/-! Rearranging a stack of whole values. In one of its forms an instruction puts values back as they
were, so the values stay whole. A stack that holds a cut value has seen a `dup2_x2` over one narrow,
one wide and one narrow value. -/

namespace BytecodeMutation

/-! ### Slots of a form -/

/-- The slots of the values that are put back, counted from the lowest slot. -/
def Form.slotOrder (form : Form) : List Nat :=
  form.order.flatMap fun n => List.range' (form.widths.take n).sum (form.widths.getD n 0)

theorem filterMap_getElem?_range' {α : Type} (xs : List α) (start n : Nat) :
    (List.range' start n).filterMap (fun j => xs[j]?) = (xs.drop start).take n := by
  induction n generalizing start with
  | zero => simp
  | succ n ih =>
    rw [List.range'_succ, List.filterMap_cons, ih]
    cases hx : xs[start]? with
    | none =>
      have hlength := List.getElem?_eq_none_iff.1 hx
      simp [List.drop_eq_nil_of_le hlength, List.drop_eq_nil_of_le (Nat.le_succ_of_le hlength)]
    | some x =>
      obtain ⟨hlt, rfl⟩ := List.getElem?_eq_some_iff.1 hx
      rw [List.drop_eq_getElem_cons hlt, List.take_succ_cons]

namespace SymbolicStack

/-- The slots of one of the values. -/
theorem slotsOf_part (top : List Slot) (n : Nat) :
    ((slotsOf top).drop ((top.map Slot.width).take n).sum).take ((top.map Slot.width).getD n 0) =
      slotsOf top[n]?.toList := by
  induction top generalizing n with
  | nil => simp
  | cons v top ih =>
    cases n with
    | zero => simp
    | succ n => simpa [List.drop_append] using ih n

theorem slotsOf_arrange {form : Form} {top : List Slot} (h : top.map Slot.width = form.widths) :
    form.slotOrder.filterMap (fun n => (slotsOf top)[n]?) = slotsOf (form.arrange top) := by
  have harrange : slotsOf (form.arrange top) =
      form.order.flatMap fun n => slotsOf top[n]?.toList := by
    rw [Form.arrange, List.filterMap_eq_flatMap_toList, slotsOf, List.flatMap_assoc]
    rfl
  rw [Form.slotOrder, List.filterMap_flatMap, harrange, ← h]
  refine List.flatMap_congr fun n _ => ?_
  rw [filterMap_getElem?_range']
  exact slotsOf_part top n

theorem slotsOf_injective {vs ws : List Slot} (hvs : ∀ v ∈ vs, 0 < v.width)
    (hws : ∀ v ∈ ws, 0 < v.width) (h : slotsOf vs = slotsOf ws) : vs = ws := by
  have happend : slotsOf vs = slotsOf ws ++ [] := by rw [h, List.append_nil]
  obtain ⟨rest, rfl, hrest⟩ := exists_append_of_slotsOf_eq hvs hws happend
  cases rest with
  | nil => exact List.append_nil ws
  | cons v rest =>
    have hv := hvs v (by simp)
    simp [slotsOf, Nat.ne_of_gt hv] at hrest

theorem forms_fit {i : Instruction} {shuffle : Shuffle} (hi : i.shuffle? = some shuffle) :
    ∀ form ∈ i.forms, form.widths.sum = shuffle.taken ∧ form.slotOrder = shuffle.order := by
  cases i <;> cases hi <;> decide

theorem width_of_mem_forms {i : Instruction} {shuffle : Shuffle} (hi : i.shuffle? = some shuffle) :
    ∀ form ∈ i.forms, ∀ w ∈ form.widths, w = 1 ∨ w = 2 := by
  cases i <;> cases hi <;> decide

/-! ### One rearrangement -/

/-- In one of its forms an instruction is accepted whatever lies below, and the values it puts back
are whole. -/
theorem apply_form {i : Instruction} {shuffle : Shuffle} (hi : i.shuffle? = some shuffle)
    {form : Form} (hform : form ∈ i.forms) {top : List Slot}
    (htop : top.map Slot.width = form.widths) (below : List Slot) (next : Nat) :
    apply i ⟨slotsOf (below ++ top), next⟩ =
      (.ok (), ⟨slotsOf (below ++ form.arrange top), next⟩) := by
  obtain ⟨htaken, horder⟩ := forms_fit hi form hform
  have hwidth : ∀ w ∈ top.map Slot.width, w = 1 ∨ w = 2 :=
    htop ▸ width_of_mem_forms hi form hform
  have hpos : ∀ v ∈ top, 0 < v.width := fun v hv => by
    have := hwidth v.width (List.mem_map_of_mem hv)
    omega
  have hlength : (slotsOf top).length = shuffle.taken := by rw [length_slotsOf, htop, htaken]
  have hfilling : top.map Slot.width ∈ fillings shuffle.taken := by
    rw [← hlength, length_slotsOf]
    exact mem_fillings hwidth
  rw [slotsOf_append, slotsOf_append, apply_shuffle hi hlength]
  refine ⟨(passes_iff_accepts hi hpos hlength).2 ?_, ?_⟩
  · exact (accepts_iff hi _ hfilling).2 (.inl ⟨form, hform, htop⟩)
  · rw [← horder, slotsOf_arrange htop]

/-- A rearrangement takes whole values from the top, and is accepted by their widths. -/
theorem Holds.apply_eq_ok {s t : SymbolicStack} {vs : List Slot} (h : s.Holds vs) {i : Instruction}
    {shuffle : Shuffle} (hi : i.shuffle? = some shuffle) :
    apply i s = (.ok (), t) ↔ ∃ below top, vs = below ++ top ∧
      (slotsOf top).length = shuffle.taken ∧ accepts i shuffle (top.map Slot.width) = true ∧
      t = ⟨slotsOf below ++ shuffle.order.filterMap fun n => (slotsOf top)[n]?, s.next⟩ := by
  obtain ⟨slots, next⟩ := s
  obtain rfl : slots = slotsOf vs := h.slots_eq
  constructor
  · intro happly
    have hle : shuffle.taken ≤ (slotsOf vs).length := by
      by_contra hlt
      exact apply_ne_ok_of_lt hi (Nat.lt_of_not_le hlt) (congrArg Prod.fst happly)
    have hlength : ((slotsOf vs).drop ((slotsOf vs).length - shuffle.taken)).length =
        shuffle.taken := by
      rw [List.length_drop]
      omega
    rw [← List.take_append_drop ((slotsOf vs).length - shuffle.taken) (slotsOf vs),
      apply_shuffle hi hlength] at happly
    obtain ⟨hpasses, rfl⟩ := happly
    obtain ⟨below, top, rfl, hbelow, -⟩ :=
      (splitWidth?_drop h.proper (Nat.sub_le _ _)).1 hpasses.1
    rw [← hbelow, slotsOf_append, List.drop_left] at hlength hpasses
    have htop : ∀ v ∈ top, 0 < v.width := fun v hv =>
      h.proper.pos v (List.mem_append_right below hv)
    refine ⟨below, top, rfl, hlength, (passes_iff_accepts hi htop hlength).1 hpasses, ?_⟩
    rw [← hbelow, slotsOf_append, List.drop_left, List.take_left]
  · rintro ⟨below, top, rfl, hlength, haccepts, rfl⟩
    have htop : ∀ v ∈ top, 0 < v.width := fun v hv =>
      h.proper.pos v (List.mem_append_right below hv)
    rw [slotsOf_append, apply_shuffle hi hlength]
    exact ⟨(passes_iff_accepts hi htop hlength).2 haccepts, rfl⟩

theorem Holds.map_width_mem_fillings {s : SymbolicStack} {below top : List Slot}
    (h : s.Holds (below ++ top)) {n : Nat} (hlength : (slotsOf top).length = n) :
    top.map Slot.width ∈ fillings n := by
  rw [← hlength, length_slotsOf]
  refine mem_fillings fun w hw => ?_
  obtain ⟨v, hv, rfl⟩ := List.mem_map.1 hw
  exact h.width v (List.mem_append_right below hv)

theorem Holds.apply_form {s : SymbolicStack} {below top : List Slot} (h : s.Holds (below ++ top))
    {i : Instruction} {shuffle : Shuffle} (hi : i.shuffle? = some shuffle) {form : Form}
    (hform : form ∈ i.forms) (htop : top.map Slot.width = form.widths) :
    apply i s = (.ok (), ⟨slotsOf (below ++ form.arrange top), s.next⟩) := by
  obtain ⟨slots, next⟩ := s
  obtain rfl : slots = slotsOf (below ++ top) := h.slots_eq
  exact SymbolicStack.apply_form hi hform htop below next

/-! ### Whole and cut values -/

/-- Every value on the stack takes as many slots in a row as it is wide. -/
def IsWhole (s : SymbolicStack) : Prop :=
  ∃ vs, s.slots = slotsOf vs ∧ ∀ v ∈ vs, 0 < v.width

/-- The stack is whole, and the values on top have these widths, from the lowest one on. -/
def TopWidths (s : SymbolicStack) (ws : List Nat) : Prop :=
  ∃ below top, s.slots = slotsOf (below ++ top) ∧ (∀ v ∈ below ++ top, 0 < v.width) ∧
    top.map Slot.width = ws

theorem Holds.isWhole {s : SymbolicStack} {vs : List Slot} (h : s.Holds vs) : s.IsWhole :=
  ⟨vs, h.slots_eq, h.proper.pos⟩

theorem Holds.topWidths_iff {s : SymbolicStack} {vs : List Slot} (h : s.Holds vs) {ws : List Nat} :
    s.TopWidths ws ↔ ∃ below top, vs = below ++ top ∧ top.map Slot.width = ws := by
  constructor
  · rintro ⟨below, top, hslots, hpos, htop⟩
    exact ⟨below, top, slotsOf_injective h.proper.pos hpos (h.slots_eq.symm.trans hslots), htop⟩
  · rintro ⟨below, top, rfl, htop⟩
    exact ⟨below, top, h.slots_eq, h.proper.pos, htop⟩

/-- Of the wide value that `dup2_x2` cuts, the upper slot comes to lie under a narrow value. -/
theorem not_isWhole_cut {below : List Slot} (hbelow : ∀ v ∈ below, 0 < v.width) {v w : Slot}
    (hv : v.width = 2) (hw : w.width = 1) (rest : List Slot) (next : Nat) :
    ¬ IsWhole ⟨slotsOf below ++ v :: w :: rest, next⟩ := by
  rintro ⟨vs, hslots, hvs⟩
  obtain ⟨top, rfl, htop⟩ := exists_append_of_slotsOf_eq hvs hbelow hslots.symm
  cases top with
  | nil => cases htop
  | cons u top =>
    obtain ⟨k, hk⟩ := Nat.exists_eq_add_one.2 (hvs u (by simp))
    have hfirst := htop
    rw [slotsOf_cons, hk, List.replicate_succ, List.cons_append] at hfirst
    obtain rfl := (List.cons.inj hfirst).1
    rw [slotsOf_cons, hv, List.replicate_succ, List.replicate_one, List.cons_append,
      List.singleton_append] at htop
    obtain rfl := (List.cons.inj (List.cons.inj htop).2).1
    omega

/-- What an accepted rearrangement of whole values leaves. -/
theorem Holds.apply_cases {s t : SymbolicStack} {vs : List Slot} (h : s.Holds vs) {i : Instruction}
    {shuffle : Shuffle} (hi : i.shuffle? = some shuffle) (happly : apply i s = (.ok (), t)) :
    (∃ form ∈ i.forms, s.TopWidths form.widths ∧ ∃ ws, t.Holds ws) ∨
      i = .dup2X2 ∧ s.TopWidths [1, 2, 1] ∧ ¬ t.IsWhole := by
  obtain ⟨below, top, rfl, hlength, haccepts, rfl⟩ := (h.apply_eq_ok hi).1 happly
  rcases (accepts_iff hi _ (h.map_width_mem_fillings hlength)).1 haccepts with
    ⟨form, hform, htop⟩ | ⟨rfl, htop⟩
  · refine .inl ⟨form, hform, h.topWidths_iff.2 ⟨below, top, rfl, htop⟩,
      below ++ form.arrange top, ?_⟩
    rw [← (forms_fit hi form hform).2, slotsOf_arrange htop, ← slotsOf_append]
    exact h.of_subset fun v hv => Form.mem_of_mem_append_arrange hv
  · refine .inr ⟨rfl, h.topWidths_iff.2 ⟨below, top, rfl, htop⟩, ?_⟩
    cases hi
    match top with
    | [] | [_] | [_, _] | _ :: _ :: _ :: _ :: _ => simp at htop
    | [x, y, z] =>
      obtain ⟨hx, hy, hz⟩ : x.width = 1 ∧ y.width = 2 ∧ z.width = 1 := by simpa using htop
      have hslots : slotsOf [x, y, z] = [x, y, y, z] := by
        simp [hx, hy, hz, List.replicate_succ]
      rw [hslots]
      exact not_isWhole_cut (fun v hv => h.proper.pos v (List.mem_append_left _ hv)) hy hz _ _

/-- A rearrangement of whole values is accepted in its forms only, apart from the cut. -/
theorem Holds.apply_fst_eq_ok {s : SymbolicStack} {vs : List Slot} (h : s.Holds vs)
    {i : Instruction} {shuffle : Shuffle} (hi : i.shuffle? = some shuffle) :
    (apply i s).1 = .ok () ↔
      (∃ form ∈ i.forms, s.TopWidths form.widths) ∨ i = .dup2X2 ∧ s.TopWidths [1, 2, 1] := by
  constructor
  · intro hok
    have happly : apply i s = (.ok (), (apply i s).2) := Prod.ext hok rfl
    rcases h.apply_cases hi happly with ⟨form, hform, htop, -⟩ | ⟨hdup, htop, -⟩
    · exact .inl ⟨form, hform, htop⟩
    · exact .inr ⟨hdup, htop⟩
  · rintro (⟨form, hform, htop⟩ | ⟨rfl, htop⟩)
    · obtain ⟨below, top, rfl, htop⟩ := h.topWidths_iff.1 htop
      rw [h.apply_form hi hform htop]
    · obtain ⟨below, top, rfl, htop⟩ := h.topWidths_iff.1 htop
      cases hi
      have hlength : (slotsOf top).length = 4 := by rw [length_slotsOf, htop]; rfl
      have haccepts :
          accepts .dup2X2 ⟨4, false, [2, 3, 0, 1, 2, 3]⟩ (top.map Slot.width) = true := by
        rw [htop]; rfl
      rw [(h.apply_eq_ok rfl).2 ⟨below, top, rfl, hlength, haccepts, rfl⟩]

theorem Holds.isWhole_of_form {s t : SymbolicStack} {vs : List Slot} (h : s.Holds vs)
    {i : Instruction} {shuffle : Shuffle} (hi : i.shuffle? = some shuffle) {form : Form}
    (hform : form ∈ i.forms) (htop : s.TopWidths form.widths) (happly : apply i s = (.ok (), t)) :
    t.IsWhole := by
  obtain ⟨below, top, rfl, htop⟩ := h.topWidths_iff.1 htop
  rw [h.apply_form hi hform htop] at happly
  obtain rfl := (Prod.mk.inj happly).2
  exact ⟨_, rfl, fun v hv => h.proper.pos v (Form.mem_of_mem_append_arrange hv)⟩

/-! ### Every history -/

/-- The stacks that come about when values are pushed and instructions rearrange them, each of which
is accepted and admitted. -/
inductive Reached (admits : Instruction → SymbolicStack → Prop) : SymbolicStack → Prop
  | empty : Reached admits empty
  | push {s : SymbolicStack} {width : Nat} : Reached admits s → width = 1 ∨ width = 2 →
      Reached admits (s.push width)
  | rearrange {s t : SymbolicStack} {i : Instruction} : Reached admits s → i.shuffle?.isSome →
      admits i s → apply i s = (.ok (), t) → Reached admits t

theorem Reached.holds {admits : Instruction → SymbolicStack → Prop}
    (hadmits : ∀ s, admits .dup2X2 s → ¬ s.TopWidths [1, 2, 1]) {s : SymbolicStack}
    (h : Reached admits s) : ∃ vs, s.Holds vs := by
  induction h with
  | empty => exact ⟨[], holds_empty⟩
  | push _ hwidth ih =>
    obtain ⟨vs, hvs⟩ := ih
    exact ⟨_, hvs.push hwidth⟩
  | rearrange _ hshuffle hadmitted happly ih =>
    obtain ⟨vs, hvs⟩ := ih
    obtain ⟨shuffle, hi⟩ := Option.isSome_iff_exists.1 hshuffle
    rcases hvs.apply_cases hi happly with ⟨-, -, -, hws⟩ | ⟨rfl, htop, -⟩
    · exact hws
    · exact absurd htop (hadmits _ hadmitted)

/-- As long as no wide value between two narrow ones is duplicated by `dup2_x2`, all values on the
stack are whole. A rearrangement is then accepted in its forms and in that one case more, and it
leaves whole values exactly if it had one of its forms. -/
theorem reached_whole {admits : Instruction → SymbolicStack → Prop}
    (hadmits : ∀ s, admits .dup2X2 s → ¬ s.TopWidths [1, 2, 1]) {s : SymbolicStack}
    (h : Reached admits s) :
    s.IsWhole ∧ ∀ i : Instruction, i.shuffle?.isSome →
      ((apply i s).1 = .ok () ↔
        (∃ form ∈ i.forms, s.TopWidths form.widths) ∨ i = .dup2X2 ∧ s.TopWidths [1, 2, 1]) ∧
      ∀ t, apply i s = (.ok (), t) → (t.IsWhole ↔ ∃ form ∈ i.forms, s.TopWidths form.widths) := by
  obtain ⟨vs, hvs⟩ := h.holds hadmits
  refine ⟨hvs.isWhole, fun i hshuffle => ?_⟩
  obtain ⟨shuffle, hi⟩ := Option.isSome_iff_exists.1 hshuffle
  refine ⟨hvs.apply_fst_eq_ok hi, fun t happly => ⟨fun hwhole => ?_, ?_⟩⟩
  · rcases hvs.apply_cases hi happly with ⟨form, hform, htop, -⟩ | ⟨-, -, hcut⟩
    · exact ⟨form, hform, htop⟩
    · exact absurd hwhole hcut
  · rintro ⟨form, hform, htop⟩
    exact hvs.isWhole_of_form hi hform htop happly

/-- Every rearrangement but the one that cuts. -/
def Uncut (i : Instruction) (s : SymbolicStack) : Prop :=
  i = .dup2X2 → ¬ s.TopWidths [1, 2, 1]

theorem wide_pair_reached_whole :
    (∀ s, Uncut .dup2X2 s → ¬ s.TopWidths [1, 2, 1]) ∧
      Reached Uncut ⟨slotsOf [⟨1, 2⟩, ⟨0, 2⟩, ⟨1, 2⟩], 2⟩ ∧
      IsWhole ⟨slotsOf [⟨1, 2⟩, ⟨0, 2⟩, ⟨1, 2⟩], 2⟩ := by
  have huncut : ∀ s, Uncut .dup2X2 s → ¬ s.TopWidths [1, 2, 1] := fun s h => h rfl
  have hpair : Holds ((empty.push 2).push 2) ([] ++ [⟨0, 2⟩, ⟨1, 2⟩]) :=
    (holds_empty.push (.inr rfl)).push (.inr rfl)
  have hadmitted : Uncut .dup2X2 ((empty.push 2).push 2) := fun _ htop => by
    obtain ⟨below, top, hpair, htop⟩ := hpair.topWidths_iff.1 htop
    have hlength := congrArg List.length htop
    have hle := congrArg List.length hpair
    simp only [List.length_map, List.length_append, List.length_cons, List.length_nil]
      at hlength hle
    omega
  have hform : ⟨[2, 2], [1, 0, 1]⟩ ∈ Instruction.dup2X2.forms := by decide
  have hreached : Reached Uncut ⟨slotsOf [⟨1, 2⟩, ⟨0, 2⟩, ⟨1, 2⟩], 2⟩ :=
    .rearrange (.push (.push .empty (.inr rfl)) (.inr rfl)) rfl hadmitted
      (hpair.apply_form rfl hform rfl)
  exact ⟨huncut, hreached, (reached_whole huncut hreached).1⟩

/-- Without that restriction a wide value can be cut, in a case that is none of the forms. -/
theorem dup2X2_cuts_wide_value :
    ∃ s t, Reached (fun _ _ => True) s ∧ apply .dup2X2 s = (.ok (), t) ∧
      (∀ form ∈ Instruction.dup2X2.forms, ¬ s.TopWidths form.widths) ∧ ¬ t.IsWhole := by
  let cut : SymbolicStack :=
    ⟨slotsOf [] ++ ⟨1, 2⟩ :: ⟨2, 1⟩ :: [⟨0, 1⟩, ⟨1, 2⟩, ⟨1, 2⟩, ⟨2, 1⟩], 3⟩
  have hholds : Holds (((empty.push 1).push 2).push 1) [⟨0, 1⟩, ⟨1, 2⟩, ⟨2, 1⟩] :=
    ((holds_empty.push (.inl rfl)).push (.inr rfl)).push (.inl rfl)
  have happly : apply .dup2X2 (((empty.push 1).push 2).push 1) = (.ok (), cut) :=
    (hholds.apply_eq_ok rfl).2 ⟨[], _, rfl, rfl, rfl, rfl⟩
  have hnone : ∀ v ∈ ([] : List Slot), 0 < v.width := nofun
  have hcut : ¬ cut.IsWhole := not_isWhole_cut hnone rfl rfl _ _
  exact ⟨_, cut, .push (.push (.push .empty (.inl rfl)) (.inr rfl)) (.inl rfl), happly,
    fun form hform htop => hcut (hholds.isWhole_of_form rfl hform htop happly), hcut⟩

end SymbolicStack

end BytecodeMutation
