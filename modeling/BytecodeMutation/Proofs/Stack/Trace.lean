import BytecodeMutation.Stack.Replacement

/-! The depth of the stack along straight-line code. The trace of two sequences, one after the
other, comes from their traces; the trace of the whole bounds the depth at every place in it. The
figures of a replacement are kept in 16 bits, and are those of the trace where they fit. -/

namespace BytecodeMutation

/-- The trace of a sequence from its own beginning. -/
def trace (is : List Instruction) : DepthTrace := DepthTrace.start.run is

namespace DepthTrace

/-- A trace that goes on with another one. -/
def followedBy (t u : DepthTrace) : DepthTrace :=
  ⟨t.depth + u.depth, min t.lowest (t.depth + u.lowest), max t.peak (t.depth + u.peak)⟩

/-- The current depth lies between the least and the greatest one. -/
def Bounded (t : DepthTrace) : Prop := t.lowest ≤ t.depth ∧ t.depth ≤ t.peak

theorem bounded_start : start.Bounded := ⟨Int.le_refl 0, Int.le_refl 0⟩

theorem bounded_step (t : DepthTrace) (e : StackEffect) : (t.step e).Bounded := by
  simp only [Bounded, step]
  omega

theorem run_eq_followedBy {t : DepthTrace} (h : t.Bounded) (is : List Instruction) :
    t.run is = t.followedBy (trace is) := by
  induction is generalizing t with
  | nil =>
    obtain ⟨depth, lowest, peak⟩ := t
    simp only [Bounded] at h
    simp only [trace, run_nil, followedBy, start, DepthTrace.mk.injEq]
    omega
  | cons i is ih =>
    rw [trace, run_cons, run_cons, ih (bounded_step t _), ih (bounded_step start _)]
    simp only [Bounded] at h
    simp only [followedBy, step, start, DepthTrace.mk.injEq]
    omega

end DepthTrace

open DepthTrace

@[simp] theorem trace_nil : trace [] = ⟨0, 0, 0⟩ := rfl

theorem trace_bounded (is : List Instruction) : (trace is).Bounded := by
  suffices h : ∀ t : DepthTrace, t.Bounded → (t.run is).Bounded from h start bounded_start
  induction is with
  | nil => exact fun t ht => ht
  | cons i is ih => exact fun t _ => ih _ (bounded_step t _)

theorem trace_append (is js : List Instruction) :
    trace (is ++ js) = (trace is).followedBy (trace js) := by
  rw [trace, run_append]
  exact run_eq_followedBy (trace_bounded is) js

theorem trace_singleton (i : Instruction) :
    trace [i] = ⟨-(i.stackEffect.pops : Int) + i.stackEffect.pushes, -(i.stackEffect.pops : Int),
      max 0 (-(i.stackEffect.pops : Int) + i.stackEffect.pushes)⟩ := by
  simp only [trace, run_cons, run_nil, step, start, DepthTrace.mk.injEq]
  omega

theorem lowest_trace_nonpos (is : List Instruction) : (trace is).lowest ≤ 0 := by
  have h := trace_append [] is
  rw [List.nil_append, trace_nil] at h
  rw [h]
  simp only [followedBy]
  omega

theorem peak_trace_nonneg (is : List Instruction) : 0 ≤ (trace is).peak := by
  have h := trace_append [] is
  rw [List.nil_append, trace_nil] at h
  rw [h]
  simp only [followedBy]
  omega

/-- What an instruction inside of a sequence finds, takes and leaves lies within the bounds of the
whole. -/
theorem trace_at (is : List Instruction) (i : Instruction) (js : List Instruction) :
    (trace (is ++ i :: js)).lowest ≤ (trace is).depth - i.stackEffect.pops ∧
      (trace is).depth ≤ (trace (is ++ i :: js)).peak ∧
      (trace (is ++ [i])).depth = (trace is).depth - i.stackEffect.pops + i.stackEffect.pushes ∧
      (trace (is ++ [i])).depth ≤ (trace (is ++ i :: js)).peak := by
  have hbounded := trace_bounded is
  have hjs := peak_trace_nonneg js
  rw [show is ++ i :: js = is ++ ([i] ++ js) from rfl]
  simp only [trace_append, trace_singleton, followedBy]
  simp only [Bounded] at hbounded
  omega

/-! ### Bounds -/

/-- A sequence that changes the depth by `net` and keeps it between two bounds. -/
structure Within (is : List Instruction) (net low high : Int) : Prop where
  depth_eq : (trace is).depth = net
  le_lowest : low ≤ (trace is).lowest
  peak_le : (trace is).peak ≤ high

namespace Within

variable {is js : List Instruction} {net low high net' low' high' : Int}

theorem nil : Within [] 0 0 0 := ⟨rfl, Int.le_refl 0, Int.le_refl 0⟩

theorem single (i : Instruction) :
    Within [i] (-(i.stackEffect.pops : Int) + i.stackEffect.pushes) (-(i.stackEffect.pops : Int))
      (max 0 (-(i.stackEffect.pops : Int) + i.stackEffect.pushes)) := by
  have h := trace_singleton i
  exact ⟨congrArg DepthTrace.depth h, Int.le_of_eq (congrArg DepthTrace.lowest h).symm,
    Int.le_of_eq (congrArg DepthTrace.peak h)⟩

theorem append (h : Within is net low high) (h' : Within js net' low' high') :
    Within (is ++ js) (net + net') (min low (net + low')) (max high (net + high')) := by
  obtain ⟨h₁, h₂, h₃⟩ := h
  obtain ⟨h₁', h₂', h₃'⟩ := h'
  constructor <;> rw [trace_append] <;> simp only [followedBy] <;> omega

theorem weaken (h : Within is net low high) (hnet : net = net') (hlow : low' ≤ low)
    (hhigh : high ≤ high') : Within is net' low' high' :=
  ⟨hnet ▸ h.depth_eq, Int.le_trans hlow h.le_lowest, Int.le_trans h.peak_le hhigh⟩

end Within

/-! ### Replacements -/

/-- Code that changes the depth as the old code does and reaches no deeper is accepted. -/
theorem verifyReplacement_of_trace {old code : List Instruction} (operator : String)
    (hfit : -65535 ≤ (trace old).lowest) (hnet : (trace code).depth = (trace old).depth)
    (hlow : (trace old).lowest ≤ (trace code).lowest) :
    verifyReplacement operator old code = .ok (SequenceEffect.of code) := by
  have hneg := lowest_trace_nonpos old
  have hneg' := lowest_trace_nonpos code
  simp only [trace] at hfit hnet hlow hneg hneg'
  have hrequired : (SequenceEffect.of code).required ≤ (SequenceEffect.of old).required := by
    simp only [SequenceEffect.of]
    omega
  exact if_pos ⟨hnet.symm, hrequired⟩

theorem figures_of_verifyReplacement {operator : String} {old code : List Instruction}
    {effect : SequenceEffect} (h : verifyReplacement operator old code = .ok effect) :
    (SequenceEffect.of old).net = (SequenceEffect.of code).net ∧
      (SequenceEffect.of code).required ≤ (SequenceEffect.of old).required := by
  simp only [verifyReplacement] at h
  split at h
  · assumption
  · cases h

theorem depth_eq_of_verifyReplacement {operator : String} {old code : List Instruction}
    {effect : SequenceEffect} (h : verifyReplacement operator old code = .ok effect) :
    (trace code).depth = (trace old).depth :=
  (figures_of_verifyReplacement h).1.symm

theorem additionalStack_eq {old code : List Instruction}
    (h : (trace code).peak - (trace old).peak ≤ 65535) :
    additionalStack old code = ((trace code).peak - (trace old).peak).toNat := by
  simp only [additionalStack, SequenceEffect.of, trace] at h ⊢
  omega

end BytecodeMutation
