import BytecodeMutation.Proofs.Stack.Exactness
import BytecodeMutation.Stack.Symbolic

/-! The symbolic stack and the counted effects agree. Each instruction finds too few slots on the
symbolic stack exactly if it pops more than there are, and otherwise changes the depth as counted,
unless it would split a value. So a sequence that is executed on the symbolic stack reaches the
depths that its figures tell. -/

namespace BytecodeMutation.SymbolicStack

/-! ### One instruction -/

theorem take?_of_lt {s : SymbolicStack} {n : Nat} (h : s.depth < n) : s.take? n = none :=
  if_neg (Nat.not_le_of_lt h)

theorem take?_of_le {s : SymbolicStack} {n : Nat} (h : n ≤ s.depth) :
    ∃ slots below, s.take? n = some (slots, below) ∧ slots.length = n ∧
      below.depth = s.depth - n := by
  refine ⟨_, _, if_pos h, ?_, ?_⟩
  · rw [List.length_drop]
    exact Nat.sub_sub_self h
  · simp [depth]

theorem depth_push (s : SymbolicStack) (width : Nat) : (s.push width).depth = s.depth + width := by
  simp [depth, push]

/-- A rearrangement takes and puts back as many slots as its instruction pops and pushes. -/
theorem stackEffect_of_shuffle? {i : Instruction} {shuffle : Shuffle}
    (hi : i.shuffle? = some shuffle) :
    i.stackEffect.pops = shuffle.taken ∧ i.stackEffect.pushes = shuffle.order.length ∧
      ∀ n ∈ shuffle.order, n < shuffle.taken := by
  cases i <;> cases hi <;> decide

theorem length_filterMap_getElem? {slots : List Slot} {order : List Nat}
    (h : ∀ n ∈ order, n < slots.length) :
    (order.filterMap fun n => slots[n]?).length = order.length := by
  rw [List.filterMap_length_eq_length]
  intro n hn
  rw [List.getElem?_eq_getElem (h n hn)]
  rfl

theorem checkBoundaries_eq_error {narrow : Bool} {slots : List Slot} {i : Instruction}
    {e : BodyError} (h : checkBoundaries narrow slots i = .error e) :
    ∃ operator expected found, e = .stackWidthMismatch operator expected found := by
  unfold checkBoundaries at h
  split at h
  · cases h
  · cases h
    exact ⟨_, _, _, rfl⟩

theorem apply_of_lt {i : Instruction} {s : SymbolicStack} (h : s.depth < i.stackEffect.pops) :
    apply i s = (.error (.stackUnderflow i.mnemonic), s) := by
  cases hi : i.shuffle? with
  | none => simp only [apply, hi, take?_of_lt h]
  | some shuffle =>
    rw [(stackEffect_of_shuffle? hi).1] at h
    simp only [apply, hi, take?_of_lt h]

theorem apply_plain {i : Instruction} (hi : i.shuffle? = none) {s below : SymbolicStack}
    {slots : List Slot} (htake : s.take? i.stackEffect.pops = some (slots, below)) :
    apply i s = (.ok (),
      if i.stackEffect.pushes = 0 then below else below.push i.stackEffect.pushes) := by
  simp only [apply, hi, htake]

/-- With its slots there, a rearrangement is made, or it would split a value. -/
theorem apply_rearranges {i : Instruction} {shuffle : Shuffle} (hi : i.shuffle? = some shuffle)
    {s below : SymbolicStack} {slots : List Slot}
    (htake : s.take? shuffle.taken = some (slots, below)) :
    apply i s = (.ok (),
        { below with slots := below.slots ++ shuffle.order.filterMap fun n => slots[n]? }) ∨
      ∃ operator expected found,
        apply i s = (.error (.stackWidthMismatch operator expected found), below) := by
  simp only [apply, hi, htake]
  cases hscan : checkBoundaries shuffle.narrow slots i with
  | error e =>
    obtain ⟨operator, expected, found, rfl⟩ := checkBoundaries_eq_error hscan
    exact .inr ⟨operator, expected, found, rfl⟩
  | ok _ =>
    cases hpart : checkBoundaries true (narrowPart i slots) i with
    | error e =>
      obtain ⟨operator, expected, found, rfl⟩ := checkBoundaries_eq_error hpart
      exact .inr ⟨operator, expected, found, rfl⟩
    | ok _ => exact .inl rfl

/-- With its operands there, an instruction leaves the counted depth, or it would split a value. -/
theorem apply_of_le {i : Instruction} {s : SymbolicStack} (h : i.stackEffect.pops ≤ s.depth) :
    (∃ t, apply i s = (.ok (), t) ∧
        t.depth = s.depth - i.stackEffect.pops + i.stackEffect.pushes) ∨
      ∃ operator expected found t,
        apply i s = (.error (.stackWidthMismatch operator expected found), t) := by
  obtain ⟨slots, below, htake, hlength, hbelow⟩ := take?_of_le h
  cases hi : i.shuffle? with
  | none =>
    refine .inl ⟨_, apply_plain hi htake, ?_⟩
    split
    · rename_i hpushes
      rw [hbelow, hpushes, Nat.add_zero]
    · rw [← hbelow, depth_push]
  | some shuffle =>
    obtain ⟨hpops, hpushes, horder⟩ := stackEffect_of_shuffle? hi
    rw [hpops] at htake hlength
    rcases apply_rearranges hi htake with happly | ⟨operator, expected, found, happly⟩
    · have hwithin : ∀ n ∈ shuffle.order, n < slots.length := hlength ▸ horder
      refine .inl ⟨_, happly, ?_⟩
      rw [← hbelow, hpushes, ← length_filterMap_getElem? hwithin]
      exact List.length_append
    · exact .inr ⟨operator, expected, found, below, happly⟩

/-- What an instruction does to the depth of the symbolic stack is what its effect counts. -/
theorem apply_agrees (i : Instruction) (s : SymbolicStack) :
    ((∃ text, (apply i s).1 = .error (.stackUnderflow text)) ↔ s.depth < i.stackEffect.pops) ∧
      (s.depth < i.stackEffect.pops → apply i s = (.error (.stackUnderflow i.mnemonic), s)) ∧
      ((apply i s).1 = .ok () →
        (apply i s).2.depth = s.depth - i.stackEffect.pops + i.stackEffect.pushes) := by
  rcases Nat.lt_or_ge s.depth i.stackEffect.pops with hlt | hle
  · rw [apply_of_lt hlt]
    exact ⟨⟨fun _ => hlt, fun _ => ⟨_, rfl⟩⟩, fun _ => rfl, nofun⟩
  · have hno : ¬ s.depth < i.stackEffect.pops := Nat.not_lt_of_le hle
    rcases apply_of_le hle with ⟨t, happly, hdepth⟩ | ⟨operator, expected, found, t, happly⟩
    · rw [happly]
      exact ⟨⟨nofun, fun h => absurd h hno⟩, fun h => absurd h hno, fun _ => hdepth⟩
    · rw [happly]
      exact ⟨⟨nofun, fun h => absurd h hno⟩, fun h => absurd h hno, nofun⟩

theorem depthAfter?_of_apply {i : Instruction} {s t : SymbolicStack}
    (h : apply i s = (.ok (), t)) : i.stackEffect.depthAfter? s.depth = some t.depth := by
  have hle : i.stackEffect.pops ≤ s.depth := by
    by_contra hlt
    rw [apply_of_lt (Nat.lt_of_not_le hlt)] at h
    cases h
  have hdepth := (apply_agrees i s).2.2 (congrArg Prod.fst h)
  rw [h] at hdepth
  exact StackEffect.depthAfter?_eq_some_iff.2 ⟨hle, hdepth⟩

/-! ### A sequence -/

theorem applyAll_append (is js : List Instruction) (s : SymbolicStack) :
    applyAll (is ++ js) s =
      match applyAll is s with
      | (.ok _, t) => applyAll js t
      | (.error e, t) => (.error e, t) := by
  induction is generalizing s with
  | nil => rfl
  | cons i is ih =>
    rw [List.cons_append, applyAll, applyAll]
    cases happly : apply i s with
    | mk result t => cases result <;> simp [ih]

theorem applyAll_ok_of_prefix_ok {is js : List Instruction} {s : SymbolicStack} (h : js <+: is)
    (hok : (applyAll is s).1 = .ok ()) : (applyAll js s).1 = .ok () := by
  obtain ⟨ks, rfl⟩ := h
  rw [applyAll_append] at hok
  split at hok
  · rename_i happly
    rw [happly]
  · cases hok

/-- A sequence that is executed on the symbolic stack is executed from its depth on. -/
theorem depthAfter?_of_applyAll {is : List Instruction} {s : SymbolicStack}
    (hok : (applyAll is s).1 = .ok ()) : depthAfter? is s.depth = some (applyAll is s).2.depth := by
  induction is generalizing s with
  | nil => rfl
  | cons i is ih =>
    rw [applyAll] at hok ⊢
    split at hok
    · rename_i t happly
      rw [depthAfter?_cons, depthAfter?_of_apply happly]
      exact ih hok
    · cases hok

theorem depthAfter?_of_underflow {is : List Instruction} {s : SymbolicStack} {text : String}
    (h : (applyAll is s).1 = .error (.stackUnderflow text)) : depthAfter? is s.depth = none := by
  induction is generalizing s with
  | nil => cases h
  | cons i is ih =>
    rw [applyAll] at h
    split at h
    · rename_i t happly
      rw [depthAfter?_cons, depthAfter?_of_apply happly]
      exact ih h
    · rename_i e t happly
      obtain rfl : e = .stackUnderflow text := Except.error.inj h
      have hlt := (apply_agrees i s).1.1 ⟨text, congrArg Prod.fst happly⟩
      rw [depthAfter?_cons, StackEffect.depthAfter?, if_neg (Nat.not_le_of_lt hlt),
        Option.bind_none]

/-- The depths of the symbolic stack at the places of a sequence, from its beginning on. -/
def depthsOn (is : List Instruction) (s : SymbolicStack) : Set Int :=
  {depth | ∃ js, js <+: is ∧ depth = (applyAll js s).2.depth}

theorem isGreatest_depthsOn {is : List Instruction} {s : SymbolicStack}
    (hok : (applyAll is s).1 = .ok ()) :
    IsGreatest (depthsOn is s) (s.depth + (SequenceEffect.of is).peak) := by
  have hrun {js} (hjs : js <+: is) := depthAfter?_of_applyAll (applyAll_ok_of_prefix_ok hjs hok)
  have hruns : (depthAfter? is s.depth).isSome :=
    Option.isSome_iff_exists.2 ⟨_, hrun (List.prefix_refl is)⟩
  have hfigure : (SequenceEffect.of is).peak = (trace is).peak := rfl
  obtain ⟨⟨js, d, hjs, hd, hpeak⟩, hle⟩ := isGreatest_growths hruns
  constructor
  · refine ⟨js, hjs, ?_⟩
    rw [hrun hjs] at hd
    obtain rfl := Option.some.inj hd
    omega
  · rintro _ ⟨ks, hks, rfl⟩
    have hgrowth := hle ⟨ks, _, hks, hrun hks, rfl⟩
    omega

/-- On every stack, whatever values it holds, an instruction does to the depth what its effect
counts; and a sequence whose requirement fits needs, changes and reaches what its figures tell. -/
theorem symbolic_depth_agrees_with_figures :
    (∀ (i : Instruction) (s : SymbolicStack),
      ((∃ text, (apply i s).1 = .error (.stackUnderflow text)) ↔ s.depth < i.stackEffect.pops) ∧
      (s.depth < i.stackEffect.pops → apply i s = (.error (.stackUnderflow i.mnemonic), s)) ∧
      ((apply i s).1 = .ok () →
        (apply i s).2.depth = s.depth - i.stackEffect.pops + i.stackEffect.pushes)) ∧
    ∀ (is : List Instruction) (s : SymbolicStack), RequirementFits is →
      ((applyAll is s).1 = .ok () →
        (SequenceEffect.of is).required ≤ s.depth ∧
        ((applyAll is s).2.depth : Int) = s.depth + (SequenceEffect.of is).net ∧
        IsGreatest (depthsOn is s) (s.depth + (SequenceEffect.of is).peak)) ∧
      ((∃ text, (applyAll is s).1 = .error (.stackUnderflow text)) →
        s.depth < (SequenceEffect.of is).required) := by
  refine ⟨apply_agrees, fun is s hfit => ⟨fun hok => ?_, ?_⟩⟩
  · have hexact := SequenceEffect.isExact_of hfit
    have hrun := depthAfter?_of_applyAll hok
    exact ⟨hexact.required.2 (Option.isSome_iff_exists.2 ⟨_, hrun⟩), hexact.net _ _ hrun,
      isGreatest_depthsOn hok⟩
  · rintro ⟨text, herror⟩
    have hnone := depthAfter?_of_underflow herror
    have hrequired := SequenceEffect.required_of hfit
    by_contra hle
    have hsome : (depthAfter? is s.depth).isSome := isSome_depthAfter?_iff.2 (by omega)
    rw [hnone] at hsome
    cases hsome

/-- Two wide values have the slots for a duplication and a sum, a narrow and a wide one have not. -/
theorem wide_sum_agrees_with_figures :
    let is : List Instruction := [.dup2X2, .arith .add .long, .store .long 0]
    let s := (empty.push 2).push 2
    let t := (empty.push 1).push 2
    RequirementFits is ∧ (applyAll is s).1 = .ok () ∧
      IsGreatest (depthsOn is s) 6 ∧ (applyAll is s).2.depth = 2 ∧
      (∃ text, (applyAll is t).1 = .error (.stackUnderflow text)) ∧ t.depth < 4 := by
  intro is s t
  have hfit : RequirementFits is := by decide
  have hok : (applyAll is s).1 = .ok () := by cbv
  have hshort : (applyAll is t).1 = .error (.stackUnderflow "dup2_x2") := by cbv
  obtain ⟨-, hagree⟩ := symbolic_depth_agrees_with_figures
  obtain ⟨-, hdepth, hpeak⟩ := (hagree is s hfit).1 hok
  have hrequired := (hagree is t hfit).2 ⟨_, hshort⟩
  refine ⟨hfit, hok, hpeak, ?_, ⟨_, hshort⟩, hrequired⟩
  exact Int.ofNat_inj.1 hdepth

end BytecodeMutation.SymbolicStack
