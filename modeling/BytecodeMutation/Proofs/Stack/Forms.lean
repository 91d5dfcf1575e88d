import BytecodeMutation.Proofs.Stack.Whole

/-! The forms of the instructions that rearrange the stack: how wide the values on top may be, and
which of them are put back. On whole values a rearrangement is accepted in one of its forms and then
leaves whole values, with one exception: `dup2_x2` also takes a wide value between two narrow ones,
and cuts it in two. -/

namespace BytecodeMutation

/-- One way to rearrange the values on top of the stack: their widths, and which of them are put
back, both from the lowest value on. -/
structure Form where
  widths : List Nat
  order : List Nat
  deriving DecidableEq

/-- The values that are put back. -/
def Form.arrange {α : Type} (form : Form) (top : List α) : List α :=
  form.order.filterMap fun n => top[n]?

theorem Form.mem_of_mem_arrange {α : Type} {form : Form} {top : List α} {v : α}
    (h : v ∈ form.arrange top) : v ∈ top := by
  obtain ⟨n, -, hn⟩ := List.mem_filterMap.1 h
  exact List.mem_of_getElem? hn

theorem Form.mem_of_mem_append_arrange {α : Type} {form : Form} {below top : List α} {v : α}
    (h : v ∈ below ++ form.arrange top) : v ∈ below ++ top := by
  rcases List.mem_append.1 h with h | h
  · exact List.mem_append_left top h
  · exact List.mem_append_right below (mem_of_mem_arrange h)

/-- The forms in which an instruction may rearrange narrow and wide values. -/
def Instruction.forms : Instruction → List Form
  | pop => [⟨[1], []⟩]
  | pop2 => [⟨[1, 1], []⟩, ⟨[2], []⟩]
  | dup => [⟨[1], [0, 0]⟩]
  | dupX1 => [⟨[1, 1], [1, 0, 1]⟩]
  | dupX2 => [⟨[1, 1, 1], [2, 0, 1, 2]⟩, ⟨[2, 1], [1, 0, 1]⟩]
  | dup2 => [⟨[1, 1], [0, 1, 0, 1]⟩, ⟨[2], [0, 0]⟩]
  | dup2X1 => [⟨[1, 1, 1], [1, 2, 0, 1, 2]⟩, ⟨[1, 2], [1, 0, 1]⟩]
  | dup2X2 => [⟨[1, 1, 1, 1], [2, 3, 0, 1, 2, 3]⟩, ⟨[1, 1, 2], [2, 0, 1, 2]⟩,
      ⟨[2, 1, 1], [1, 2, 0, 1, 2]⟩, ⟨[2, 2], [1, 0, 1]⟩]
  | swap => [⟨[1, 1], [1, 0]⟩]
  | _ => []

namespace SymbolicStack

/-! ### Taking slots -/

/-- Whether the slots that an instruction takes are accepted. -/
def Passes (i : Instruction) (shuffle : Shuffle) (slots : List Slot) : Prop :=
  splitWidth? shuffle.narrow slots = none ∧ splitWidth? true (narrowPart i slots) = none

/-- A rearrangement of the top slots. -/
theorem apply_shuffle {i : Instruction} {shuffle : Shuffle} (hi : i.shuffle? = some shuffle)
    {below slots : List Slot} (hlength : slots.length = shuffle.taken) (next : Nat)
    (t : SymbolicStack) :
    apply i ⟨below ++ slots, next⟩ = (.ok (), t) ↔ Passes i shuffle slots ∧
      t = ⟨below ++ shuffle.order.filterMap fun n => slots[n]?, next⟩ := by
  have htake : take? ⟨below ++ slots, next⟩ shuffle.taken = some (slots, ⟨below, next⟩) := by
    simp [take?, ← hlength]
  rw [Passes, ← checkBoundaries_eq_ok (i := i), ← checkBoundaries_eq_ok (i := i)]
  simp only [apply, hi, htake]
  cases checkBoundaries shuffle.narrow slots i <;>
    cases checkBoundaries true (narrowPart i slots) i <;> simp [eq_comm]

theorem apply_ne_ok_of_lt {i : Instruction} {shuffle : Shuffle} (hi : i.shuffle? = some shuffle)
    {s : SymbolicStack} (h : s.slots.length < shuffle.taken) : (apply i s).1 ≠ .ok () := by
  have htake : s.take? shuffle.taken = none := if_neg (by omega)
  simp [apply, hi, htake]

/-! ### Whole values -/

/-- The stack holds these values, each of them whole, and narrow or wide. -/
structure Holds (s : SymbolicStack) (vs : List Slot) : Prop where
  slots_eq : s.slots = slotsOf vs
  width : ∀ v ∈ vs, v.width = 1 ∨ v.width = 2
  value_lt : ∀ v ∈ vs, v.value < s.next
  eq_of_value_eq : ∀ v ∈ vs, ∀ w ∈ vs, v.value = w.value → v = w

theorem Holds.proper {s : SymbolicStack} {vs : List Slot} (h : s.Holds vs) : Proper vs :=
  ⟨fun v hv => by have := h.width v hv; omega, h.eq_of_value_eq⟩

theorem holds_empty : empty.Holds [] := ⟨rfl, nofun, nofun, nofun⟩

theorem Holds.push {s : SymbolicStack} {vs : List Slot} (h : s.Holds vs) {width : Nat}
    (hwidth : width = 1 ∨ width = 2) : (s.push width).Holds (vs ++ [⟨s.next, width⟩]) := by
  have hmem : ∀ v ∈ vs ++ [⟨s.next, width⟩], v ∈ vs ∨ v = ⟨s.next, width⟩ := by simp
  refine ⟨by simp [SymbolicStack.push, h.slots_eq], fun v hv => ?_, fun v hv => ?_,
    fun v hv w hw hvw => ?_⟩
  · rcases hmem v hv with hv | rfl
    · exact h.width v hv
    · exact hwidth
  · rcases hmem v hv with hv | rfl
    · exact Nat.lt_succ_of_lt (h.value_lt v hv)
    · exact Nat.lt_succ_self s.next
  · rcases hmem v hv with hv | rfl <;> rcases hmem w hw with hw | rfl
    · exact h.eq_of_value_eq v hv w hw hvw
    · exact absurd hvw (Nat.ne_of_lt (h.value_lt v hv))
    · exact absurd hvw.symm (Nat.ne_of_lt (h.value_lt w hw))
    · rfl

/-- Values that are moved or copied stay whole. -/
theorem Holds.of_subset {s : SymbolicStack} {vs ws : List Slot} (h : s.Holds vs)
    (hsub : ∀ v ∈ ws, v ∈ vs) : Holds ⟨slotsOf ws, s.next⟩ ws :=
  ⟨rfl, fun v hv => h.width v (hsub v hv), fun v hv => h.value_lt v (hsub v hv),
    fun v hv w hw => h.eq_of_value_eq v (hsub v hv) w (hsub w hw)⟩

/-! ### Accepted forms -/

/-- The ways to fill slots with narrow and wide values. -/
def fillings : Nat → List (List Nat)
  | 0 => [[]]
  | 1 => [[1]]
  | n + 2 => (fillings (n + 1)).map (1 :: ·) ++ (fillings n).map (2 :: ·)

theorem mem_fillings {ws : List Nat} (h : ∀ w ∈ ws, w = 1 ∨ w = 2) : ws ∈ fillings ws.sum := by
  induction ws with
  | nil => exact List.mem_singleton_self _
  | cons w ws ih =>
    have hws := ih fun x hx => h x (List.mem_cons_of_mem w hx)
    rcases h w List.mem_cons_self with rfl | rfl
    · cases hsum : ws.sum with
      | zero =>
        rw [hsum] at hws
        rw [List.mem_singleton.1 hws]
        decide
      | succ n =>
        rw [List.sum_cons, hsum, Nat.add_comm]
        rw [hsum] at hws
        exact List.mem_append_left _ (List.mem_map_of_mem hws)
    · rw [List.sum_cons, Nat.add_comm]
      exact List.mem_append_right _ (List.mem_map_of_mem hws)

theorem splitWidth?_singleton {v : Slot} : splitWidth? true [v] = none ↔ v.width = 1 := by
  by_cases hv : v.width = 1 <;> simp [splitWidth?, hv]

/-- The widths that the slots of values of these widths tell. -/
def slotWidths (ws : List Nat) : List Nat := ws.flatMap fun w => List.replicate w w

theorem map_width_slotsOf (vs : List Slot) :
    (slotsOf vs).map Slot.width = slotWidths (vs.map Slot.width) := by
  simp [slotsOf, slotWidths, List.map_flatMap, List.flatMap_map]

/-- Whether values of these widths on top are accepted. -/
def accepts (i : Instruction) (shuffle : Shuffle) (ws : List Nat) : Bool :=
  (!shuffle.narrow || ws.all (· == 1)) &&
    match i with
    | .dupX2 => (slotWidths ws)[2]? == some 1
    | .dup2X1 => (slotWidths ws)[0]? == some 1
    | _ => true

theorem narrowPart_passes {i : Instruction} {shuffle : Shuffle} (hi : i.shuffle? = some shuffle)
    {slots : List Slot} (hlength : slots.length = shuffle.taken) :
    splitWidth? true (narrowPart i slots) = none ↔
      (i = .dupX2 → (slots.map Slot.width)[2]? = some 1) ∧
        (i = .dup2X1 → (slots.map Slot.width)[0]? = some 1) := by
  cases i <;> cases hi
  case dupX2 | dup2X1 =>
    match slots, hlength with
    | [x, y, z], _ => simp [narrowPart, splitWidth?_singleton]
  all_goals simp [narrowPart, splitWidth?]

theorem passes_iff_accepts {i : Instruction} {shuffle : Shuffle} (hi : i.shuffle? = some shuffle)
    {top : List Slot} (htop : ∀ v ∈ top, 0 < v.width)
    (hlength : (slotsOf top).length = shuffle.taken) :
    Passes i shuffle (slotsOf top) ↔ accepts i shuffle (top.map Slot.width) = true := by
  rw [Passes, narrowPart_passes hi hlength, splitWidth?_slotsOf htop, map_width_slotsOf]
  cases i <;> cases hi <;> simp [accepts]

/-- Of all ways to fill the slots that an instruction takes, those in its forms are accepted, and
one more for `dup2_x2`. -/
theorem accepts_iff {i : Instruction} {shuffle : Shuffle} (hi : i.shuffle? = some shuffle) :
    ∀ ws ∈ fillings shuffle.taken, accepts i shuffle ws = true ↔
      (∃ form ∈ i.forms, ws = form.widths) ∨ i = .dup2X2 ∧ ws = [1, 2, 1] := by
  cases i <;> cases hi <;> decide

end SymbolicStack

end BytecodeMutation
