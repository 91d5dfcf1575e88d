import BytecodeMutation.Proofs.Engine.SingleFault
import BytecodeMutation.Proofs.Flow.Splice
import BytecodeMutation.Proofs.Operator.Candidates

/-! Mutants fit their frames. If the stack of a method stays within its limit along every path, and
its locals lie below theirs, then so it is for every mutant of the method with the frame sizes that
the mutant declares. -/

namespace BytecodeMutation

/-- Code that was accepted stands in for the instruction of the offer. -/
theorem Offer.standsIn {f : Offer} {o : Operator} {m : MethodBody}
    {catalog : Option SignatureCatalog} (hf : f ∈ o.offers ⟨m, catalog⟩) {code : List Instruction}
    {locals : LocalAllocator} (hcode : f.code m = .ok (code, locals)) :
    StandsIn f.old code m.maxLocals.toNat locals.next.toNat := by
  obtain ⟨hemit, effect, heffect⟩ := Offer.code_eq_ok.1 hcode
  obtain ⟨-, hcandidate, -⟩ := Operator.mem_offersFrom.1 hf
  rcases Operator.candidate_cases hcandidate with
    ⟨-, code', hemit', hcode'⟩ | ⟨call, record, -, hold, -, hret, hemission⟩
  · rw [hemit'] at hemit
    obtain ⟨hsame, rfl⟩ := Prod.mk.inj hemit
    obtain rfl := Except.ok.inj hsame
    exact hcode' _
  · have hkind : (CallMode.target call record).kind = call.kind := rfl
    have hdepth := depth_eq_of_verifyReplacement heffect
    rw [hemission] at hemit
    rw [hold] at hdepth ⊢
    have hvoid := StandsIn.void_notMem_of_verified hkind hret hemit hdepth
    exact StandsIn.redirected hkind hret hvoid hemit

theorem ClassUnit.FirstMethod.unique {u : ClassUnit} {name : String}
    {descriptor : MethodDescriptor} {j k : Nat} {m n : MethodBody}
    (hm : u.FirstMethod name descriptor j m) (hn : u.FirstMethod name descriptor k n) :
    j = k ∧ m = n := by
  have hjk : ¬j < k := fun hlt => hn.earliest j hlt m hm.at_position ⟨hm.name_eq, hm.descriptor_eq⟩
  have hkj : ¬k < j := fun hlt => hm.earliest k hlt n hn.at_position ⟨hn.name_eq, hn.descriptor_eq⟩
  obtain rfl : j = k := by omega
  exact ⟨rfl, Option.some.inj (hm.at_position.symm.trans hn.at_position)⟩

/-- The body that an offer makes of a method keeps the depths around the new code, and its locals
are in bounds. -/
theorem Offer.apply_fits {f : Offer} {o : Operator} {m n : MethodBody}
    {catalog : Option SignatureCatalog} (hf : f ∈ o.offers ⟨m, catalog⟩) (h : f.apply m = .ok n)
    {d : Nat → Option Nat} (hdepths : DepthsFit m.instructions m.maxStack.toNat d)
    (hlocals : LocalsFit m.instructions m.maxLocals.toNat) :
    ∃ code ≠ [], n.instructions =
        m.instructions.take f.index ++ code ++ m.instructions.drop (f.index + 1) ∧
      LocalsFit n.instructions n.maxLocals.toNat ∧
      DepthsFit n.instructions n.maxStack.toNat (spliceDepths d f.index code) := by
  obtain ⟨⟨code, locals⟩, hcode, hbody⟩ := bind_eq_ok.1 h
  have hstands := Offer.standsIn hf hcode
  have hnext := Emission.next_le_of_emit (Offer.code_eq_ok.1 hcode).1
  obtain ⟨before, after, hinstructions, hindex, -⟩ := Operator.offers_split hf
  simp only at hinstructions
  obtain ⟨htake, hdrop⟩ := take_drop_around hinstructions hindex
  obtain ⟨hn, hstack⟩ := Offer.body_eq_ok hbody
  rw [hinstructions] at hdepths hlocals
  rw [hn]
  simp only [hstack, htake, hdrop]
  rw [hindex]
  exact ⟨code, hstands.ne_nil, rfl, hstands.localsFit hnext hlocals, hstands.depthsFit hdepths⟩

/-- Whatever the control flow of a method, a mutant of it has a depth map for its own stack limit
that agrees with the one of the method at every instruction that is left of it, and touches no local
beyond its own limit. -/
theorem mutant_fits_its_frame {e : MutationEngine} {u mutant : ClassUnit}
    {id : MutationIdentifier} (h : e.mutate u id = .ok mutant) {descriptor : MethodDescriptor}
    (hdescriptor : MethodDescriptor.ofText? id.method.descriptor = some descriptor) {k : Nat}
    {m : MethodBody} (hm : u.FirstMethod id.method.name descriptor k m) {d : Nat → Option Nat}
    (hdepths : DepthsFit m.instructions m.maxStack.toNat d)
    (hlocals : LocalsFit m.instructions m.maxLocals.toNat) :
    ∃ n code d', mutant.methods[k]? = some n ∧
      n.instructions =
        m.instructions.take id.index ++ code ++ m.instructions.drop (id.index + 1) ∧
      LocalsFit n.instructions n.maxLocals.toNat ∧
      DepthsFit n.instructions n.maxStack.toNat d' ∧
      (∀ p < id.index, d' p = d p) ∧ ∀ p > id.index, d' (p + code.length - 1) = d p := by
  obtain ⟨descriptor', k', m', o, f, n, -, hd, hm', -, hf, rfl, hn, rfl⟩ :=
    MutationEngine.mutate_ok h
  obtain rfl := Option.some.inj (hdescriptor.symm.trans hd)
  obtain ⟨rfl, rfl⟩ := hm.unique hm'
  have hk : k < u.methods.length := (List.getElem?_eq_some_iff.1 hm.at_position).1
  obtain ⟨code, hcode, hinstructions, hlocals', hdepths'⟩ :=
    Offer.apply_fits hf hn hdepths hlocals
  refine ⟨n, code, spliceDepths d f.index code, List.getElem?_set_self hk, hinstructions, hlocals',
    hdepths', fun p hp => if_pos hp, fun p hp => ?_⟩
  have hlength := List.length_pos_iff.2 hcode
  simp only [Offer.identifier] at hp
  rw [spliceDepths, if_neg (by omega), if_neg (by omega)]
  congr 1
  omega

/-- The depths of the sample method. -/
def Sample.callerDepths (p : Nat) : Option Nat := [0, 0, 1, 3, 1][p]?

open Sample in
theorem redirected_caller_fits_its_frame :
    redirecting.mutate callers redirectedShift = .ok (callers.setMethod 0 redirectedCaller) ∧
      callers.FirstMethod "run" caller.descriptor 0 caller ∧
      DepthsFit caller.instructions 3 callerDepths ∧ LocalsFit caller.instructions 3 ∧
      ∃ n code d', [redirectedCaller][0]? = some n ∧
        n.instructions = caller.instructions.take 3 ++ code ++ caller.instructions.drop 4 ∧
        LocalsFit n.instructions n.maxLocals.toNat ∧
        DepthsFit n.instructions n.maxStack.toNat d' ∧
        (∀ p < 3, d' p = callerDepths p) ∧ ∀ p > 3, d' (p + code.length - 1) = callerDepths p := by
  have h : redirecting.mutate callers redirectedShift =
      .ok (callers.setMethod 0 redirectedCaller) := toOption_eq_some.1 (by decide +kernel)
  have hdescriptor : MethodDescriptor.ofText? "(IJ)I" = some caller.descriptor := by
    decide +kernel
  have hm : callers.FirstMethod "run" caller.descriptor 0 caller := ⟨rfl, rfl, rfl, nofun⟩
  have hdepths : DepthsFit caller.instructions 3 callerDepths := by
    intro p x hp
    have hp5 : p < 5 := (List.getElem?_eq_some_iff.1 hp).1
    obtain rfl | rfl | rfl | rfl | rfl : p = 0 ∨ p = 1 ∨ p = 2 ∨ p = 3 ∨ p = 4 := by omega
    all_goals
      obtain rfl := Option.some.inj hp
      refine ⟨_, rfl, by decide, by decide, by decide, fun q hq => ?_⟩
      obtain ⟨hfalls, rfl⟩ := hq.of_target?_eq_none rfl rfl
    any_goals rfl
    cases hfalls
  have hlocals : LocalsFit caller.instructions 3 := by
    unfold LocalsFit
    decide
  exact ⟨h, hm, hdepths, hlocals, mutant_fits_its_frame h hdescriptor hm hdepths hlocals⟩

end BytecodeMutation
