import BytecodeMutation.Proofs.Flow.Basic
import BytecodeMutation.Proofs.Operator.Marshal
import BytecodeMutation.Proofs.Stack.Trace

/-! Code that can stand in for an instruction wherever it is found: the stack is as deep afterwards
as after the instruction, no deeper slot is read, the same branch is left to take, and the locals
are those of the instruction or fresh ones. -/

namespace BytecodeMutation

open Instruction

/-- The code for an instruction, where locals from `free` on are fresh and those from `after` on
remain so. -/
structure StandsIn (i : Instruction) (code : List Instruction) (free after : Nat) : Prop where
  depth_eq : (trace code).depth = (trace [i]).depth
  lowest_le : (trace [i]).lowest ≤ (trace code).lowest
  peak_le : (trace code).peak ≤ (trace [i]).peak + 65535
  not_label : ∀ l, i ≠ .label l
  flow : ∃ (init : List Instruction) (last : Instruction), code = init ++ [last] ∧
    (∀ j ∈ init, j.IsPlain) ∧ last.target? = i.target? ∧ last.fallsThrough = i.fallsThrough ∧
    ∀ l, last ≠ .label l
  locals : i.localsEnd ≤ free → ∀ j ∈ code, j.localsEnd ≤ after

/-- Two instructions that no other instruction can tell apart by depth, flow and locals. -/
structure Alike (i j : Instruction) : Prop where
  stackEffect_eq : j.stackEffect = i.stackEffect
  target_eq : j.target? = i.target?
  fallsThrough_eq : j.fallsThrough = i.fallsThrough
  localsEnd_eq : j.localsEnd = i.localsEnd
  not_label : ∀ l, i ≠ .label l
  not_label' : ∀ l, j ≠ .label l

theorem Alike.invoke {m m' : MethodRef}
    (h : (Instruction.invoke m').stackEffect = (Instruction.invoke m).stackEffect) :
    Alike (.invoke m) (.invoke m') :=
  ⟨h, rfl, rfl, rfl, nofun, nofun⟩

namespace StandsIn

variable {i j : Instruction} {code : List Instruction} {free after : Nat}

theorem ne_nil (h : StandsIn i code free after) : code ≠ [] := by
  obtain ⟨init, last, rfl, -⟩ := h.flow
  exact List.append_ne_nil_of_right_ne_nil init (List.cons_ne_nil last [])

/-- All of the code but its end is plain, and the end is left like the instruction. -/
theorem flow_at (h : StandsIn i code free after) {j : Nat} (hj : j < code.length) :
    (j + 1 < code.length → code[j].IsPlain) ∧
      (j + 1 = code.length →
        code[j].target? = i.target? ∧ code[j].fallsThrough = i.fallsThrough) := by
  obtain ⟨init, last, rfl, hinit, htarget, hfalls, -⟩ := h.flow
  rw [List.length_append, List.length_singleton] at hj ⊢
  constructor
  · intro hlt
    rw [List.getElem_append_left (by omega)]
    exact hinit _ (List.getElem_mem _)
  · intro hend
    obtain rfl : j = init.length := by omega
    rw [List.getElem_concat_length rfl]
    exact ⟨htarget, hfalls⟩

/-- Between the bounds of a trace, the figures of the code need no more than to be compared. -/
theorem of_within {init : List Instruction} {last : Instruction} {net low high : Int}
    (h : Within (init ++ [last]) net low high)
    (hnet : net = -(i.stackEffect.pops : Int) + i.stackEffect.pushes)
    (hlow : -(i.stackEffect.pops : Int) ≤ low) (hhigh : high ≤ 65535) (hi : ∀ l, i ≠ .label l)
    (hinit : ∀ j ∈ init, j.IsPlain) (htarget : last.target? = i.target?)
    (hfalls : last.fallsThrough = i.fallsThrough) (hlast : ∀ l, last ≠ .label l)
    (hlocals : i.localsEnd ≤ free → ∀ j ∈ init ++ [last], j.localsEnd ≤ after) :
    StandsIn i (init ++ [last]) free after := by
  obtain ⟨hdepth, hlowest, hpeak⟩ := h
  refine ⟨?_, ?_, ?_, hi, ⟨init, last, rfl, hinit, htarget, hfalls, hlast⟩, hlocals⟩ <;>
    simp only [trace_singleton] <;> omega

/-- Code whose figures are at hand. -/
theorem of_traces (init : List Instruction) (last : Instruction) (t u : DepthTrace)
    (hcode : trace (init ++ [last]) = t) (hi : trace [i] = u)
    (hfit : t.depth = u.depth ∧ u.lowest ≤ t.lowest ∧ t.peak ≤ u.peak + 65535) (hplain : i.IsPlain)
    (hall : ∀ j ∈ init ++ [last], j.PlainBelow i.localsEnd) :
    StandsIn i (init ++ [last]) free free := by
  have hlast := (hall last (List.mem_append_right init List.mem_cons_self)).1
  refine ⟨by rw [hi, hcode]; exact hfit.1, by rw [hi, hcode]; exact hfit.2.1,
    by rw [hi, hcode]; exact hfit.2.2, hplain.2.2, ⟨init, last, rfl, fun j hj => ?_,
      hlast.1.trans hplain.1.symm, hlast.2.1.trans hplain.2.1.symm, hlast.2.2⟩, ?_⟩
  · exact (hall j (List.mem_append_left [last] hj)).1
  · intro hfree j hj
    exact Nat.le_trans (hall j hj).2 hfree

/-- An instruction stands in for one that it is alike to. -/
theorem single (h : Alike i j) : StandsIn i [j] free free := by
  have htrace : trace [j] = trace [i] := by
    rw [trace_singleton, trace_singleton, h.stackEffect_eq]
  refine ⟨by rw [htrace], Int.le_of_eq (by rw [htrace]), by rw [htrace]; omega, h.not_label,
    ⟨[], j, rfl, nofun, h.target_eq, h.fallsThrough_eq, h.not_label'⟩, ?_⟩
  intro hfree k hk
  obtain rfl := List.mem_singleton.1 hk
  rw [h.localsEnd_eq]
  exact hfree

theorem verified (h : StandsIn i code free after) (hfit : i.stackEffect.pops ≤ 65535)
    (operator : String) :
    verifyReplacement operator [i] code = .ok (SequenceEffect.of code) := by
  refine verifyReplacement_of_trace operator ?_ h.depth_eq h.lowest_le
  rw [trace_singleton]
  simp only
  omega

end StandsIn

end BytecodeMutation
