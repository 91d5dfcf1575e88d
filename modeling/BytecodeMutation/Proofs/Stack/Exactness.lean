import BytecodeMutation.Proofs.Stack.Trace
import Mathlib.Data.List.Induction
import Mathlib.Order.Bounds.Basic

/-! Straight-line code that is executed from some depth of the stack. It goes on as long as every
instruction finds its operands. The figures of a sequence tell from where it is executed to its end,
how it then changes the depth, and how far the depth grows on the way; so a replacement that was
verified is safe between any code before it and any code after it. -/

namespace BytecodeMutation

/-- The depth that an instruction leaves, if its operands are there. -/
def StackEffect.depthAfter? (e : StackEffect) (depth : Nat) : Option Nat :=
  if e.pops ≤ depth then some (depth - e.pops + e.pushes) else none

theorem StackEffect.depthAfter?_eq_some_iff {e : StackEffect} {n d : Nat} :
    e.depthAfter? n = some d ↔ e.pops ≤ n ∧ d = n - e.pops + e.pushes := by
  simp [depthAfter?, eq_comm]

/-- The depth that a sequence leaves, if every instruction finds its operands. -/
def depthAfter? (is : List Instruction) (depth : Nat) : Option Nat :=
  is.foldlM (fun depth i => i.stackEffect.depthAfter? depth) depth

@[simp] theorem depthAfter?_nil (n : Nat) : depthAfter? [] n = some n := rfl

@[simp] theorem depthAfter?_cons (i : Instruction) (is : List Instruction) (n : Nat) :
    depthAfter? (i :: is) n = (i.stackEffect.depthAfter? n).bind (depthAfter? is) := rfl

theorem depthAfter?_append (is js : List Instruction) (n : Nat) :
    depthAfter? (is ++ js) n = (depthAfter? is n).bind (depthAfter? js) := List.foldlM_append

/-! ### Executions and the trace -/

theorem trace_cons (i : Instruction) (is : List Instruction) :
    trace (i :: is) = (trace [i]).followedBy (trace is) := trace_append [i] is

/-- A sequence is executed to its end if the depth before it makes up for the lowest point. -/
theorem depthAfter?_eq_some_iff {is : List Instruction} {n d : Nat} :
    depthAfter? is n = some d ↔ 0 ≤ n + (trace is).lowest ∧ (d : Int) = n + (trace is).depth := by
  induction is generalizing n with
  | nil =>
    simp only [depthAfter?_nil, Option.some.injEq, trace_nil]
    omega
  | cons i is ih =>
    rw [depthAfter?_cons, Option.bind_eq_some_iff, trace_cons, trace_singleton]
    simp only [StackEffect.depthAfter?_eq_some_iff, ih, DepthTrace.followedBy]
    constructor
    · rintro ⟨m, ⟨hpops, rfl⟩, hlow, hd⟩
      omega
    · rintro ⟨hlow, hd⟩
      exact ⟨_, ⟨by omega, rfl⟩, by omega, by omega⟩

theorem isSome_depthAfter?_iff {is : List Instruction} {n : Nat} :
    (depthAfter? is n).isSome ↔ 0 ≤ n + (trace is).lowest := by
  rw [Option.isSome_iff_exists]
  constructor
  · rintro ⟨d, hd⟩
    exact (depthAfter?_eq_some_iff.1 hd).1
  · intro hlow
    have hbounded := (trace_bounded is).1
    exact ⟨(n + (trace is).depth).toNat, depthAfter?_eq_some_iff.2 ⟨hlow, by omega⟩⟩

/-- How far the depth has grown at the places of a sequence, from its beginning on. -/
def growths (is : List Instruction) (n : Nat) : Set Int :=
  {growth | ∃ js d, js <+: is ∧ depthAfter? js n = some d ∧ growth = d - n}

theorem growths_nil (n : Nat) : growths [] n = {0} := by
  ext growth
  simp [growths]

theorem growths_concat {is : List Instruction} {i : Instruction} {n d : Nat}
    (h : depthAfter? (is ++ [i]) n = some d) :
    growths (is ++ [i]) n = insert (d - n : Int) (growths is n) := by
  ext growth
  simp only [growths, Set.mem_ofPred_eq, Set.mem_insert_iff, List.prefix_concat_iff]
  constructor
  · rintro ⟨js, e, rfl | hjs, he, rfl⟩
    · rw [h] at he
      exact .inl (by rw [Option.some.inj he])
    · exact .inr ⟨js, e, hjs, he, rfl⟩
  · rintro (rfl | ⟨js, e, hjs, he, rfl⟩)
    · exact ⟨_, d, .inl rfl, h, rfl⟩
    · exact ⟨js, e, .inr hjs, he, rfl⟩

theorem isGreatest_growths {is : List Instruction} {n : Nat} (h : (depthAfter? is n).isSome) :
    IsGreatest (growths is n) (trace is).peak := by
  induction is using List.reverseRecOn with
  | nil =>
    rw [growths_nil]
    exact isGreatest_singleton
  | append_singleton is i ih =>
    -- one place is new, and the depth there counts only if it is above those before
    obtain ⟨d, hd⟩ := Option.isSome_iff_exists.1 h
    have his : (depthAfter? is n).isSome := by
      rw [depthAfter?_append] at h
      exact Option.isSome_of_isSome_bind h
    have hbounded := trace_bounded is
    have hdepth := (depthAfter?_eq_some_iff.1 hd).2
    have hpeak : (trace (is ++ [i])).peak = max (d - n : Int) (trace is).peak := by
      rw [trace_append, trace_singleton] at hdepth ⊢
      simp only [DepthTrace.Bounded, DepthTrace.followedBy] at hbounded hdepth ⊢
      omega
    rw [growths_concat hd, hpeak]
    exact (ih his).insert _

/-! ### Figures -/

/-- The slots that a sequence requires can be counted in 16 bits: the greatest such number
suffices. -/
def RequirementFits (is : List Instruction) : Prop := (depthAfter? is 65535).isSome

instance : DecidablePred RequirementFits := fun is =>
  inferInstanceAs (Decidable ((depthAfter? is 65535).isSome = true))

namespace SequenceEffect

/-- The figures are those of the executions: the least depth from which the sequence is executed to
its end, the change of depth from there on, and the greatest growth on the way. -/
structure IsExact (e : SequenceEffect) (is : List Instruction) : Prop where
  required : IsLeast {n | (depthAfter? is n).isSome} e.required
  net : ∀ n d, depthAfter? is n = some d → (d : Int) = n + e.net
  peak : ∀ n, (depthAfter? is n).isSome → IsGreatest (growths is n) e.peak

theorem required_of {is : List Instruction} (hfit : RequirementFits is) :
    ((of is).required : Int) = -(trace is).lowest := by
  have hlow := isSome_depthAfter?_iff.1 hfit
  have hneg := lowest_trace_nonpos is
  simp only [of, trace] at hlow hneg ⊢
  omega

theorem isExact_of {is : List Instruction} (hfit : RequirementFits is) : (of is).IsExact is := by
  have hrequired := required_of hfit
  refine ⟨⟨?_, ?_⟩, fun n d h => (depthAfter?_eq_some_iff.1 h).2, fun n => isGreatest_growths⟩
  · refine isSome_depthAfter?_iff.2 ?_
    omega
  · intro n hn
    have hlow := isSome_depthAfter?_iff.1 hn
    omega

end SequenceEffect

/-! ### Replacements -/

/-- Code that is put in the place of other code changes the trace of the whole no more than its
own. -/
theorem within_replaced {old code : List Instruction} {extra : Int} (hextra : 0 ≤ extra)
    (h : Within code (trace old).depth (trace old).lowest ((trace old).peak + extra))
    (before after : List Instruction) :
    let whole := trace (before ++ old ++ after)
    Within (before ++ code ++ after) whole.depth whole.lowest (whole.peak + extra) := by
  obtain ⟨hdepth, hlow, hpeak⟩ := h
  constructor <;> simp only [trace_append, DepthTrace.followedBy] <;> omega

theorem lowest_le_of_verifyReplacement {operator : String} {old code : List Instruction}
    {effect : SequenceEffect} (h : verifyReplacement operator old code = .ok effect)
    (hold : RequirementFits old) (hcode : RequirementFits code) :
    (trace old).lowest ≤ (trace code).lowest := by
  have hrequired := SequenceEffect.required_of hold
  have hrequired' := SequenceEffect.required_of hcode
  have hle := (figures_of_verifyReplacement h).2
  omega

/-- The figures of a sequence are exact where they fit, and what was verified by them can stand in
between any code before and after it: whatever was executed to its end with the old code is executed
to its end with the new one, to the same depth, and in at most the additional slots more. -/
theorem verified_replacement_is_safe {old code : List Instruction} (hold : RequirementFits old)
    (hcode : RequirementFits code)
    (hpeak : (SequenceEffect.of code).peak - (SequenceEffect.of old).peak ≤ 65535) :
    (∀ is, RequirementFits is → (SequenceEffect.of is).IsExact is) ∧
    ∀ operator effect, verifyReplacement operator old code = .ok effect →
      ∀ before after : List Instruction,
        let was := SequenceEffect.of (before ++ old ++ after)
        let now := SequenceEffect.of (before ++ code ++ after)
        now.net = was.net ∧ now.peak ≤ was.peak + additionalStack old code ∧
        (RequirementFits (before ++ old ++ after) → now.required ≤ was.required) ∧
        ∀ n d, depthAfter? (before ++ old ++ after) n = some d →
          depthAfter? (before ++ code ++ after) n = some d := by
  refine ⟨fun is => SequenceEffect.isExact_of, fun operator effect h before after => ?_⟩
  have hextra : (additionalStack old code : Int) =
      max 0 ((trace code).peak - (trace old).peak) := by
    rw [additionalStack_eq hpeak]
    omega
  have hcode' : Within code (trace old).depth (trace old).lowest
      ((trace old).peak + additionalStack old code) :=
    ⟨depth_eq_of_verifyReplacement h, lowest_le_of_verifyReplacement h hold hcode, by omega⟩
  obtain ⟨hdepth, hbottom, htop⟩ := within_replaced (by omega) hcode' before after
  have hruns : ∀ n d, depthAfter? (before ++ old ++ after) n = some d →
      depthAfter? (before ++ code ++ after) n = some d := fun n d hd => by
    rw [depthAfter?_eq_some_iff] at hd ⊢
    omega
  refine ⟨hdepth, htop, fun hfit => ?_, hruns⟩
  obtain ⟨d, hd⟩ := Option.isSome_iff_exists.1 hfit
  have hwas := SequenceEffect.required_of hfit
  have hnow := SequenceEffect.required_of (Option.isSome_iff_exists.2 ⟨d, hruns _ d hd⟩)
  omega

/-- A subtraction that first makes a spare copy of an operand stands in for an addition. -/
theorem spare_copy_is_safe :
    let old : List Instruction := [.arith .add .int]
    let code : List Instruction := [.dup, .pop, .arith .sub .int]
    let before : List Instruction := [.load .int 0, .load .int 1]
    let after : List Instruction := [.store .int 2]
    RequirementFits old ∧ RequirementFits code ∧ RequirementFits (before ++ old ++ after) ∧
      (SequenceEffect.of code).peak - (SequenceEffect.of old).peak ≤ 65535 ∧
      verifyReplacement "swapped" old code = .ok ⟨2, -1, 1⟩ ∧
      (SequenceEffect.of code).IsExact code ∧ additionalStack old code = 1 ∧
      (SequenceEffect.of (before ++ code ++ after)).peak ≤
        (SequenceEffect.of (before ++ old ++ after)).peak + 1 ∧
      (SequenceEffect.of (before ++ code ++ after)).required ≤
        (SequenceEffect.of (before ++ old ++ after)).required ∧
      depthAfter? (before ++ code ++ after) 0 = some 0 := by
  intro old code before after
  have hold : RequirementFits old := by decide
  have hcode : RequirementFits code := by decide
  have hpeak : (SequenceEffect.of code).peak - (SequenceEffect.of old).peak ≤ 65535 := by decide
  have hwhole : RequirementFits (before ++ old ++ after) := by decide
  have hverified : verifyReplacement "swapped" old code = .ok ⟨2, -1, 1⟩ := rfl
  obtain ⟨hexact, hsafe⟩ := verified_replacement_is_safe hold hcode hpeak
  obtain ⟨-, htop, hrequired, hruns⟩ := hsafe _ _ hverified before after
  exact ⟨hold, hcode, hwhole, hpeak, hverified, hexact _ hcode, rfl, htop, hrequired hwhole,
    hruns 0 0 rfl⟩

end BytecodeMutation
