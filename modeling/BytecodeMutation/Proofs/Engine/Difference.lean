import BytecodeMutation.Proofs.Catalog.Replacements
import BytecodeMutation.Proofs.Engine.SingleFault
import BytecodeMutation.Proofs.Operator.Constants
import BytecodeMutation.Proofs.Operator.Families

/-! No mutant is a copy. Each family of operators has its own way to leave alone what it would not
change, and none of them emits the instruction that it was offered for, so the code of a mutated
method is never the code that it was made from. -/

namespace BytecodeMutation

variable {context : InstructionContext} {i : Instruction} {r : Replacement}
  {code : List Instruction}

/-! ### Replacements are new -/

theorem Substitution.ne_of_substitute? {s : Substitution} {j : Instruction}
    (h : s.substitute? i = some j) : j ≠ i := by
  obtain ⟨F, -, -, hne⟩ := SubstitutionFamily.substitute?_eq_some_iff_isRow.1 h
  exact hne.symm

/-- Other code for the same number is not a copy either: only one number is pushed by an
instruction, and the perturbed one is another number. -/
theorem Perturbation.materialize_ne {v : Literal} {p : Perturbation} (hv : i.Pushes v)
    (hne : v.perturb p ≠ v) : (v.perturb p).materialize ≠ i := by
  rintro rfl
  exact hne ((Literal.pushes_materialize _).functional hv)

theorem RemovedOperand.sequence_ne (removed : RemovedOperand) (width : Nat) (op : ArithmeticOp)
    (t : NumericType) : removed.sequence width ≠ [.arith op t] := by
  unfold sequence
  split <;> simp

theorem UnaryStep.Emits.ne_singleton {s : UnaryStep} (h : Emits s i code) (hs : s ≠ .reverse) :
    code ≠ [i] := by
  cases h with
  | reverse => exact absurd rfl hs
  | addIncrement => simp
  | preIncrement n | preDecrement n => cases n <;> simp [stepAndLoad]
  | negateIncremented | negateLoaded | negateStored => simp

theorem UnaryStep.code_ne {s : UnaryStep} {inConstructor : Bool}
    (h : s.candidate? inConstructor i = some r) (hcode : r.emission = .sequence code) :
    code ≠ [i] := by
  by_cases hs : s = .reverse
  · -- zero is its own opposite, but the reversal offers nothing for it
    subst hs
    obtain ⟨index, delta, opposite, rfl, hopposite, hemission⟩ := candidate?_reverse_eq_some h
    obtain rfl := Emission.sequence.inj (hcode.symm.trans hemission)
    simpa using ne_of_reversed? hopposite
  · obtain ⟨code', hemission, hemits⟩ := candidate?_emits h
    obtain rfl := Emission.sequence.inj (hcode.symm.trans hemission)
    exact hemits.ne_singleton hs

theorem CallMode.code_ne {mode : CallMode} (h : mode.candidate? context i = some r)
    {a : LocalAllocator} (hcode : (r.emission.emit a).1 = .ok code) : code ≠ [i] := by
  obtain ⟨call, catalog, record, rfl, -, -, hfits, rfl⟩ := candidate?_eq_some h
  rintro rfl
  have hlast : some (Instruction.invoke call) = some (.invoke (target call record)) :=
    getLast?_redirect hcode
  simp only [Option.some.injEq, Instruction.invoke.injEq] at hlast
  exact (SignatureRecord.fits_iff_replaces.1 hfits).target_ne hlast.symm

theorem Replacement.code_eq_of_sequence {new : List Instruction} (h : r.emission = .sequence new)
    {a : LocalAllocator} (hcode : (r.emission.emit a).1 = .ok code) : new = code := by
  rw [h] at hcode
  exact Except.ok.inj hcode

/-- Whatever is emitted for an instruction, it is not that instruction alone. -/
theorem Operator.code_ne {o : Operator} (h : o.candidate? context i = some r) {a : LocalAllocator}
    (hcode : (r.emission.emit a).1 = .ok code) : code ≠ [i] := by
  cases o with
  | substitution s =>
    obtain ⟨j, hj, hemission⟩ := Substitution.candidate?_eq_some h
    obtain rfl := Replacement.code_eq_of_sequence hemission hcode
    simpa using Substitution.ne_of_substitute? hj
  | elimination removed =>
    obtain ⟨op, t, rfl, hemission⟩ := RemovedOperand.candidate?_eq_some h
    rw [hemission, Emission.emit] at hcode
    simp only [removed.prove_sequence, ok_map, Except.ok.injEq] at hcode
    rw [← hcode]
    exact removed.sequence_ne t.width op t
  | perturbation p =>
    obtain ⟨v, hv, hne, hemission⟩ := Perturbation.candidate?_eq_some h
    obtain rfl := Replacement.code_eq_of_sequence hemission hcode
    simpa using Perturbation.materialize_ne hv hne
  | unaryStep s =>
    obtain ⟨new, hemission, -⟩ := UnaryStep.candidate?_emits h
    obtain rfl := Replacement.code_eq_of_sequence hemission hcode
    exact UnaryStep.code_ne h hemission
  | redirection mode => exact CallMode.code_ne h hcode

/-! ### Mutants are new -/

theorem SingleFault.instructions_ne {catalog : Option SignatureCatalog} {o : Operator}
    {index : Nat} {m n : MethodBody} (h : SingleFault catalog o index m n) :
    n.instructions ≠ m.instructions := by
  obtain ⟨old, r, code, locals, hold, hr, hemit, hn, -⟩ := h.rewritten
  obtain ⟨hlt, rfl⟩ := List.getElem?_eq_some_iff.1 hold
  have hm : m.instructions = m.instructions.take index ++ [m.instructions[index]] ++
      m.instructions.drop (index + 1) := by
    simp
  intro heq
  -- around the instruction the two lists are the same
  have haround := hn.symm.trans (heq.trans hm)
  exact Operator.code_ne hr (congrArg Prod.fst hemit)
    (List.append_cancel_left (List.append_cancel_right haround))

/-- No operator replaces an instruction by itself, and so the instructions of a mutated method are
never the ones it had before. Constants are compared by their bits: zeros of different sign and
NaNs of different bits are different constants. -/
theorem mutant_is_no_copy :
    (∀ (o : Operator) (context : InstructionContext) (i : Instruction) (r : Replacement)
      (a : LocalAllocator) (code : List Instruction), o.candidate? context i = some r →
        (r.emission.emit a).1 = .ok code → code ≠ [i]) ∧
    ∀ (e : MutationEngine) (u mutant : ClassUnit) (id : MutationIdentifier),
      e.mutate u id = .ok mutant →
        ∃ d k m n, MethodDescriptor.ofText? id.method.descriptor = some d ∧
          u.FirstMethod id.method.name d k m ∧ mutant.methods[k]? = some n ∧
          n.instructions ≠ m.instructions := by
  refine ⟨fun o context i r a code h hcode => Operator.code_ne h hcode, fun e u mutant id h => ?_⟩
  obtain ⟨d, k, m, o, f, n, -, hd, hm, -, hf, -, hn, rfl⟩ := MutationEngine.mutate_ok h
  exact ⟨d, k, m, n, hd, hm, hm.getElem?_setMethod n, (f.singleFault hf hn).instructions_ne⟩

/-! ### A negated zero -/

namespace Sample

def zero : MethodBody :=
  ⟨"zero", ⟨[], .float⟩, true, 1, 0, [.loadConst (.float .zero), .valueReturn .float]⟩

def negatedZero : MethodBody :=
  { zero with instructions := [.loadConst (.float Binary32.zero.negate), .valueReturn .float] }

def zeros : ClassUnit := ⟨"A", none, [zero]⟩

def negating : MutationEngine := ⟨.admitAll, [.perturbation .negate], none⟩

def zeroNegation : MutationIdentifier := ⟨⟨"A", "zero", "()F"⟩, "crcr_negate", 0⟩

end Sample

open Sample in
/-- The two zeros are the same number, but their code differs. -/
theorem negated_zero_is_no_copy :
    (Operator.perturbation .negate).candidate? ⟨zero, none⟩ (.loadConst (.float .zero)) =
        some (.single (.loadConst (.float Binary32.zero.negate))
          "Replaced constant 0.0f with -0.0f (float)") ∧
      [Instruction.loadConst (.float Binary32.zero.negate)] ≠ [.loadConst (.float .zero)] ∧
      negating.mutate zeros zeroNegation = .ok (zeros.setMethod 0 negatedZero) ∧
      Instruction.agreeAll negatedZero.instructions zero.instructions = true ∧
      negatedZero.instructions ≠ zero.instructions := by
  have hcandidate : (Operator.perturbation .negate).candidate? ⟨zero, none⟩
      (.loadConst (.float .zero)) = some (.single (.loadConst (.float Binary32.zero.negate))
        "Replaced constant 0.0f with -0.0f (float)") := by decide +kernel
  have hmutate : negating.mutate zeros zeroNegation = .ok (zeros.setMethod 0 negatedZero) :=
    toOption_eq_some.1 (by decide +kernel)
  refine ⟨hcandidate, mutant_is_no_copy.1 _ _ _ _ ⟨0⟩ _ hcandidate rfl, hmutate,
    by decide +kernel, ?_⟩
  obtain ⟨d, k, m, n, -, hm, hn, hne⟩ := mutant_is_no_copy.2 negating zeros _ _ hmutate
  obtain ⟨hlt, rfl⟩ := List.getElem?_eq_some_iff.1 hm.at_position
  obtain rfl : k = 0 := Nat.lt_one_iff.1 hlt
  obtain rfl := Option.some.inj hn
  exact hne

end BytecodeMutation
