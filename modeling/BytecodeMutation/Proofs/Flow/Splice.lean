import BytecodeMutation.Proofs.Operator.StandIn

/-! Code spliced into a method in the place of one instruction. If the code stands in for the
instruction, a depth map of the method extends over the code: the paths through the method enter the
code at its beginning, run through it, and leave it as they left the instruction. -/

namespace BytecodeMutation

open Instruction

/-- The depths of a method after the instruction at `k` was replaced: those along the new code come
from its trace, all others are kept, with the positions behind the code moved. -/
def spliceDepths (d : Nat → Option Nat) (k : Nat) (code : List Instruction) (p : Nat) :
    Option Nat :=
  if p < k then d p
  else if p < k + code.length then
    (d k).map fun x : Nat => ((x : Int) + (trace (code.take (p - k))).depth).toNat
  else d (p + 1 - code.length)

section

variable {before after code : List Instruction} {i : Instruction} {d : Nat → Option Nat}

theorem getElem?_splice_span {j : Nat} (hj : j < code.length) :
    (before ++ code ++ after)[before.length + j]? = code[j]? := by
  rw [List.append_assoc, List.getElem?_append_right (Nat.le_add_right _ _),
    Nat.add_sub_cancel_left, List.getElem?_append_left hj]

theorem getElem?_splice_after (r : Nat) :
    (before ++ code ++ after)[before.length + code.length + r]? = after[r]? := by
  rw [List.getElem?_append_right (by rw [List.length_append]; omega), List.length_append,
    Nat.add_sub_cancel_left]

theorem getElem?_splice_before {p : Nat} (hp : p < before.length) :
    (before ++ code ++ after)[p]? = before[p]? := by
  rw [List.append_assoc, List.getElem?_append_left hp]

theorem spliceDepths_before {p : Nat} (hp : p < before.length) :
    spliceDepths d before.length code p = d p := if_pos hp

theorem spliceDepths_span {j : Nat} (hj : j < code.length) :
    spliceDepths d before.length code (before.length + j) =
      (d before.length).map fun x : Nat => ((x : Int) + (trace (code.take j)).depth).toNat := by
  rw [spliceDepths, if_neg (by omega), if_pos (by omega), Nat.add_sub_cancel_left]

theorem spliceDepths_entry (hcode : code ≠ []) :
    spliceDepths d before.length code before.length = d before.length := by
  have h := @spliceDepths_span before code d 0 (List.length_pos_iff.2 hcode)
  rw [List.take_zero, Nat.add_zero] at h
  rw [h]
  cases d before.length with
  | none => rfl
  | some x => simp

theorem spliceDepths_after (r : Nat) :
    spliceDepths d before.length code (before.length + code.length + r) =
      d (before.length + 1 + r) := by
  rw [spliceDepths, if_neg (by omega), if_neg (by omega)]
  congr 1
  omega

end

/-- A position of spliced code lies before the code, in it or after it. -/
theorem splice_cases (k c p : Nat) :
    p < k ∨ (∃ j, j < c ∧ p = k + j) ∨ ∃ r, p = k + c + r := by
  by_cases hk : p < k
  · exact .inl hk
  · by_cases hc : p < k + c
    · exact .inr (.inl ⟨p - k, by omega, by omega⟩)
    · exact .inr (.inr ⟨p - (k + c), by omega⟩)

namespace StandsIn

variable {before after code : List Instruction} {i : Instruction} {d : Nat → Option Nat}
  {free unused limit : Nat}

/-- There is no label in the code, so every label of the method has moved with its depth. -/
theorem label_moved (h : StandsIn i code free unused) {q : Nat} {l : Label}
    (hq : (before ++ code ++ after)[q]? = some (.label l)) :
    ∃ q', (before ++ i :: after)[q']? = some (.label l) ∧
      spliceDepths d before.length code q = d q' := by
  rcases splice_cases before.length code.length q with hlt | ⟨j, hj, rfl⟩ | ⟨r, rfl⟩
  · rw [getElem?_splice_before hlt] at hq
    exact ⟨q, by rw [List.getElem?_append_left hlt, hq], spliceDepths_before hlt⟩
  · rw [getElem?_splice_span hj] at hq
    obtain ⟨init, last, hcode, hinit, -, -, hlast⟩ := h.flow
    have hmem : Instruction.label l ∈ init ++ [last] := hcode ▸ List.mem_of_getElem? hq
    rcases List.mem_append.1 hmem with hmem | hmem
    · exact absurd rfl ((hinit _ hmem).2.2 l)
    · exact absurd (List.mem_singleton.1 hmem).symm (hlast l)
  · rw [getElem?_splice_after] at hq
    refine ⟨before.length + 1 + r, ?_, spliceDepths_after r⟩
    rw [List.getElem?_append_right (by omega), show before.length + 1 + r - before.length = r + 1 by
      omega, List.getElem?_cons_succ, hq]

/-- At every place of the code the stack is as deep as its trace says, and no deeper than the
limit, which grows by what the code needs more than the instruction. -/
theorem depth_in_span (h : StandsIn i code free unused) {x : Nat} (hpops : i.stackEffect.pops ≤ x)
    (hlimit : x ≤ limit) (hafter : x - i.stackEffect.pops + i.stackEffect.pushes ≤ limit) {j : Nat}
    (hj : j < code.length) :
    let y : Nat := ((x : Int) + (trace (code.take j)).depth).toNat
    code[j].stackEffect.pops ≤ y ∧ y ≤ limit + additionalStack [i] code ∧
      y - code[j].stackEffect.pops + code[j].stackEffect.pushes ≤
        limit + additionalStack [i] code ∧
      ((x : Int) + (trace (code.take (j + 1))).depth).toNat =
        y - code[j].stackEffect.pops + code[j].stackEffect.pushes := by
  have hsplit : code.take j ++ code[j] :: code.drop (j + 1) = code := by
    rw [← List.drop_eq_getElem_cons hj, List.take_append_drop]
  have htake : code.take j ++ [code[j]] = code.take (j + 1) := by
    rw [List.take_append_getElem hj]
  obtain ⟨hlow, hpeak, hdepth, hpeak'⟩ := trace_at (code.take j) code[j] (code.drop (j + 1))
  rw [hsplit] at hlow hpeak hpeak'
  rw [htake] at hdepth hpeak'
  have hlowest := h.lowest_le
  have hgrowth := additionalStack_eq (show (trace code).peak - (trace [i]).peak ≤ 65535 by
    have := h.peak_le
    omega)
  rw [trace_singleton] at hlowest hgrowth
  simp only at hlowest hgrowth
  rw [hgrowth]
  omega

/-- An instruction that branches as another one of the method did, and is followed by what followed
that one, has successors at the same depth. -/
theorem successors_moved (h : StandsIn i code free unused) {p p' : Nat} {j i' : Instruction}
    (hp : (before ++ code ++ after)[p]? = some j) (hp' : (before ++ i :: after)[p']? = some i')
    (htarget : j.target? = i'.target?) (hfalls : j.fallsThrough = i'.fallsThrough)
    (hnext : spliceDepths d before.length code (p + 1) = d (p' + 1)) {y : Nat}
    (hd : ∀ q, Successor (before ++ i :: after) p' q → d q = some y) :
    ∀ q, Successor (before ++ code ++ after) p q →
      spliceDepths d before.length code q = some y := by
  intro q hq
  cases hq with
  | next hj hfall =>
    obtain rfl := Option.some.inj (hp.symm.trans hj)
    rw [hnext]
    exact hd _ (.next hp' (hfalls ▸ hfall))
  | branch hj hl hq =>
    obtain rfl := Option.some.inj (hp.symm.trans hj)
    obtain ⟨q', hq', hmoved⟩ := h.label_moved hq
    rw [hmoved]
    exact hd _ (.branch hp' (htarget ▸ hl) hq')

/-- The successors of a place in the code are at the depth that the trace has after it. -/
theorem successors_in_span (h : StandsIn i code free unused) {x : Nat}
    (hx : d before.length = some x) (hpops : i.stackEffect.pops ≤ x)
    (hsucc : ∀ q, Successor (before ++ i :: after) before.length q →
      d q = some (x - i.stackEffect.pops + i.stackEffect.pushes)) {j : Nat} (hj : j < code.length) :
    ∀ q, Successor (before ++ code ++ after) (before.length + j) q →
      spliceDepths d before.length code q =
        some ((x : Int) + (trace (code.take (j + 1))).depth).toNat := by
  have hi : (before ++ i :: after)[before.length]? = some i := by
    rw [List.getElem?_append_right (Nat.le_refl _), Nat.sub_self, List.getElem?_cons_zero]
  have hnew : (before ++ code ++ after)[before.length + j]? = some code[j] := by
    rw [getElem?_splice_span hj, List.getElem?_eq_getElem hj]
  obtain ⟨hplain, hlast⟩ := h.flow_at hj
  by_cases hend : j + 1 = code.length
  · -- the last instruction leaves the code the way the old one was left
    obtain ⟨htarget, hfalls⟩ := hlast hend
    have hout : x - i.stackEffect.pops + i.stackEffect.pushes =
        ((x : Int) + (trace (code.take (j + 1))).depth).toNat := by
      rw [hend, List.take_length, h.depth_eq, trace_singleton]
      simp only
      omega
    rw [hout] at hsucc
    have hnext : spliceDepths d before.length code (before.length + j + 1) =
        d (before.length + 1) := by
      have hafter := @spliceDepths_after before code d 0
      rw [Nat.add_zero, Nat.add_zero, ← hend] at hafter
      exact hafter
    exact h.successors_moved hnew hi htarget hfalls hnext hsucc
  · intro q hq
    obtain ⟨-, rfl⟩ := hq.of_target?_eq_none hnew (hplain (by omega)).1
    rw [Nat.add_assoc, spliceDepths_span (by omega), hx]
    rfl

/-- A method in which the depths fit keeps them around code that stands in for an instruction. -/
theorem depthsFit (h : StandsIn i code free unused)
    (hd : DepthsFit (before ++ i :: after) limit d) :
    DepthsFit (before ++ code ++ after) (limit + additionalStack [i] code)
      (spliceDepths d before.length code) := by
  intro p x hp
  rcases splice_cases before.length code.length p with hlt | ⟨j, hj, rfl⟩ | ⟨r, rfl⟩
  · rw [spliceDepths_before hlt] at hp
    obtain ⟨i', hi', hpops, hx, hy, hsucc⟩ := hd p x hp
    have hnew : (before ++ code ++ after)[p]? = some i' := by
      rw [getElem?_splice_before hlt, ← hi', List.getElem?_append_left hlt]
    have hnext : spliceDepths d before.length code (p + 1) = d (p + 1) := by
      by_cases hentry : p + 1 = before.length
      · rw [hentry, spliceDepths_entry h.ne_nil]
      · exact spliceDepths_before (by omega)
    exact ⟨i', hnew, hpops, by omega, by omega, h.successors_moved hnew hi' rfl rfl hnext hsucc⟩
  · rw [spliceDepths_span hj] at hp
    obtain ⟨x', hx', rfl⟩ := Option.map_eq_some_iff.1 hp
    obtain ⟨i', hi', hpops, hx, hy, hsucc⟩ := hd _ x' hx'
    obtain rfl : i = i' := by
      rw [List.getElem?_append_right (Nat.le_refl _), Nat.sub_self, List.getElem?_cons_zero] at hi'
      exact Option.some.inj hi'
    obtain ⟨hpops', hlimit, hlimit', hdepth⟩ := h.depth_in_span hpops hx hy hj
    have hnew : (before ++ code ++ after)[before.length + j]? = some code[j] := by
      rw [getElem?_splice_span hj, List.getElem?_eq_getElem hj]
    refine ⟨code[j], hnew, hpops', hlimit, hlimit', ?_⟩
    rw [← hdepth]
    exact h.successors_in_span hx' hpops hsucc hj
  · rw [spliceDepths_after] at hp
    obtain ⟨i', hi', hpops, hx, hy, hsucc⟩ := hd _ x hp
    have hnew : (before ++ code ++ after)[before.length + code.length + r]? = some i' := by
      rw [getElem?_splice_after, ← hi', List.getElem?_append_right (by omega),
        show before.length + 1 + r - before.length = r + 1 by omega, List.getElem?_cons_succ]
    have hnext := @spliceDepths_after before code d (r + 1)
    exact ⟨i', hnew, hpops, by omega, by omega, h.successors_moved hnew hi' rfl rfl hnext hsucc⟩

/-- A method whose locals fit keeps them within the locals in use after the code. -/
theorem localsFit (h : StandsIn i code free unused) (hle : free ≤ unused)
    (hd : LocalsFit (before ++ i :: after) free) :
    LocalsFit (before ++ code ++ after) unused := by
  intro j hj
  rcases List.mem_append.1 hj with hj | hj
  · rcases List.mem_append.1 hj with hj | hj
    · exact Nat.le_trans (hd j (List.mem_append_left _ hj)) hle
    · have hi := hd i (List.mem_append_right before List.mem_cons_self)
      exact h.locals hi j hj
  · exact Nat.le_trans (hd j (List.mem_append_right before (List.mem_cons_of_mem i hj))) hle

end StandsIn

end BytecodeMutation
