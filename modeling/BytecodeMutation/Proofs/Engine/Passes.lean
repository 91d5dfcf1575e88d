import BytecodeMutation.Engine.Basic
import BytecodeMutation.Proofs.Engine.Offers

/-! A pass in terms of its offers. A pass that the target does not concern registers its offers and
leaves the code as it is; in the pass of the target the code of one offer takes the place of its
instruction, and the instructions around it stay. -/

namespace BytecodeMutation

namespace SiteRegistry

/-- Whether an offer is the one to be applied. -/
def aimsAt (r : SiteRegistry) (f : Offer) : Bool := r.shouldMutate (f.identifier r.method)

theorem aimsAt_iff {r : SiteRegistry} {f : Offer} :
    r.aimsAt f = true ↔ r.applied = none ∧ r.target = some (f.identifier r.method) := by
  simp [aimsAt, shouldMutate]

theorem enter_ok {r s : SiteRegistry} {f : Offer} (h : r.enter f = .ok s) : s = r.record f := by
  rw [enter_eq] at h
  split at h
  · cases h
  · exact (Except.ok.inj h).symm

theorem enterAll_ok {r s : SiteRegistry} {fs : List Offer} (h : r.enterAll fs = .ok s) :
    s = r.recordAll fs := by
  induction fs generalizing r with
  | nil => exact (Except.ok.inj h).symm
  | cons f fs ih =>
    rw [enterAll_cons, bind_eq_ok] at h
    obtain ⟨t, ht, hs⟩ := h
    rw [ih hs, enter_ok ht]
    rfl

/-- Registration depends on the lines of the offers only. -/
theorem enterAll_setLine {α : Type} (r : SiteRegistry) (line last : Option UInt32)
    (fs : List Offer) (g : SiteRegistry → α) :
    ((r.setLine line).enterAll fs).map (fun r => g (r.setLine last)) =
      (r.enterAll fs).map fun r => g (r.setLine last) := by
  cases fs <;> rfl

@[simp] theorem recordAll_nil (r : SiteRegistry) : r.recordAll [] = r := rfl

@[simp] theorem recordAll_cons (r : SiteRegistry) (f : Offer) (fs : List Offer) :
    r.recordAll (f :: fs) = (r.record f).recordAll fs := rfl

theorem recordAll_eq_withSites (r : SiteRegistry) (fs : List Offer) :
    ∃ line, r.recordAll fs = (r.withSites fs).setLine line := by
  induction fs generalizing r with
  | nil =>
    refine ⟨r.line, ?_⟩
    simp only [withSites, Offer.sitesFrom, List.append_nil, List.foldl_nil, recordAll_nil, setLine]
  | cons f fs ih =>
    obtain ⟨line, h⟩ := ih (r.record f)
    refine ⟨line, ?_⟩
    rw [recordAll_cons, h]
    simp only [withSites, record, setLine, Offer.sitesFrom, List.append_assoc,
      List.singleton_append, List.length_append, List.length_singleton, List.foldl_cons]

/-- Only the sites, their identifiers and the line change with what is registered. -/
theorem recordAll_eq (r : SiteRegistry) (fs : List Offer) :
    ∃ line sites registered, r.recordAll fs = { r with line, sites, registered } := by
  obtain ⟨line, h⟩ := r.recordAll_eq_withSites fs
  exact ⟨line, _, _, h⟩

theorem aimsAt_recordAll (r : SiteRegistry) (fs : List Offer) (g : Offer) :
    (r.recordAll fs).aimsAt g = r.aimsAt g := by
  obtain ⟨line, sites, registered, h⟩ := r.recordAll_eq fs
  rw [h]
  rfl

end SiteRegistry

namespace PassState

/-- A visit in terms of the offer for the instruction. -/
theorem visit_eq (o : Operator) (context : InstructionContext) (index : Nat) (i : Instruction)
    (s : PassState) :
    s.visit o context index i =
      match o.candidate? context i with
      | none => .ok { s with
          registry := s.registry.setLine (lineFrom s.registry.line i)
          code := s.code ++ [i] }
      | some r => do
        let f : Offer := ⟨o, index, lineFrom s.registry.line i, i, r⟩
        let registry ← s.registry.enter f
        if registry.aimsAt f then
          let code ← (r.emission.emit s.locals).1
          let _ ← verifyReplacement o.name [i] code
          return {
            registry := registry.markApplied (f.identifier registry.method)
            locals := (r.emission.emit s.locals).2
            extraStack := additionalStack [i] code
            applied := true
            code := s.code ++ code }
        else return { s with registry, code := s.code ++ [i] } := by
  cases i <;> rfl

theorem visitFrom_append (o : Operator) (context : InstructionContext) (index : Nat)
    (is js : List Instruction) (s : PassState) :
    visitFrom o context index (is ++ js) s =
      visitFrom o context index is s >>= visitFrom o context (index + is.length) js := by
  induction is generalizing index s with
  | nil => rfl
  | cons i is ih =>
    have hn : index + 1 + is.length = index + (i :: is).length := by simp; omega
    simp only [List.cons_append, visitFrom, hn ▸ ih (index + 1)]
    cases s.visit o context index i <;> rfl

/-- A stretch of code without the target stays as it is. -/
theorem visitFrom_spared (o : Operator) (context : InstructionContext) (index : Nat)
    (is : List Instruction) (s : PassState)
    (h : ∀ f ∈ o.offersFrom context index s.registry.line is, s.registry.aimsAt f = false) :
    visitFrom o context index is s =
      (s.registry.enterAll (o.offersFrom context index s.registry.line is)).map fun registry =>
        { s with
          registry := registry.setLine (lastLine s.registry.line is)
          code := s.code ++ is } := by
  induction is generalizing index s with
  | nil => simp [visitFrom, Operator.offersFrom, lastLine, SiteRegistry.setLine]
  | cons i is ih =>
    rw [visitFrom, visit_eq]
    cases hc : o.candidate? context i with
    | none =>
      simp only [Operator.offersFrom, hc, Option.toList_none, List.map_nil, List.nil_append] at h ⊢
      rw [ok_bind, ih _ _ h]
      simp only [List.append_assoc, List.singleton_append]
      exact SiteRegistry.enterAll_setLine _ _ _ _ fun registry =>
        { s with registry, code := s.code ++ i :: is }
    | some r =>
      simp only [Operator.offersFrom, hc, Option.toList_some, List.map_cons, List.map_nil,
        List.singleton_append, List.mem_cons, forall_eq_or_imp, SiteRegistry.enterAll_cons] at h ⊢
      cases he : s.registry.enter ⟨o, index, lineFrom s.registry.line i, i, r⟩ with
      | error e => rfl
      | ok registry =>
        have hr := SiteRegistry.enter_ok he
        have haim : ∀ f, registry.aimsAt f = s.registry.aimsAt f := by
          intro f
          rw [hr]
          rfl
        have hline : registry.line = lineFrom s.registry.line i := by rw [hr]; rfl
        simp only [ok_bind, haim, h.1, Bool.false_eq_true, if_false]
        rw [← hline] at h ⊢
        change visitFrom o context (index + 1) is { s with registry, code := s.code ++ [i] } = _
        rw [ih]
        · simp only [List.append_assoc, List.singleton_append]
          rw [hline]
          rfl
        · intro f hf
          rw [haim]
          exact h.2 f hf

/-- Offers at other places have other identifiers. -/
theorem aimsAt_before {o : Operator} {context : InstructionContext} {index : Nat}
    {line : Option UInt32} {before : List Instruction} {r : SiteRegistry} {f : Offer}
    (hindex : f.index = index + before.length) (h : r.aimsAt f = true) :
    ∀ g ∈ o.offersFrom context index line before, r.aimsAt g = false := by
  intro g hg
  obtain ⟨-, -, xs, ys, hxs, hgi, -⟩ := Operator.mem_offersFrom.1 hg
  refine Bool.eq_false_iff.2 fun hg => ?_
  have hid := (SiteRegistry.aimsAt_iff.1 hg).2
  rw [(SiteRegistry.aimsAt_iff.1 h).2, Option.some.injEq] at hid
  have hgf : f.index = g.index := congrArg MutationIdentifier.index hid
  have hlen := congrArg List.length hxs
  rw [List.length_append, List.length_cons] at hlen
  omega

/-- The visit to the instruction of the target. -/
theorem visit_aimed {o : Operator} {context : InstructionContext} {s : PassState} {f : Offer}
    (ho : f.operator = o) (hc : o.candidate? context f.old = some f.replacement)
    (hline : f.line = lineFrom s.registry.line f.old) (h : s.registry.aimsAt f = true) :
    s.visit o context f.index f.old = (do
      let registry ← s.registry.enter f
      let code ← (f.replacement.emission.emit s.locals).1
      let _ ← verifyReplacement o.name [f.old] code
      return {
        registry := registry.markApplied (f.identifier registry.method)
        locals := (f.replacement.emission.emit s.locals).2
        extraStack := additionalStack [f.old] code
        applied := true
        code := s.code ++ code }) := by
  obtain ⟨operator, index, line, old, replacement⟩ := f
  obtain rfl : operator = o := ho
  obtain rfl : line = lineFrom s.registry.line old := hline
  rw [visit_eq, hc]
  simp only
  cases he : s.registry.enter ⟨operator, index, lineFrom s.registry.line old, old, replacement⟩ with
  | error e => rfl
  | ok registry =>
    have haim : registry.aimsAt ⟨operator, index, lineFrom s.registry.line old, old, replacement⟩ =
        true := by
      rw [SiteRegistry.enter_ok he, ← h]
      rfl
    simp only [ok_bind, haim, if_true]

/-- The stretch of the target: its code takes the place of one instruction. -/
theorem visitFrom_aimed {o : Operator} {context : InstructionContext} {index : Nat}
    {before after : List Instruction} {s : PassState} {f : Offer} (ho : f.operator = o)
    (hc : o.candidate? context f.old = some f.replacement)
    (hindex : f.index = index + before.length)
    (hline : f.line = lastLine s.registry.line (before ++ [f.old])) (h : s.registry.aimsAt f) :
    visitFrom o context index (before ++ f.old :: after) s = (do
      let registry ← s.registry.enterAll
        (o.offersFrom context index s.registry.line before ++ [f])
      let code ← (f.replacement.emission.emit s.locals).1
      let _ ← verifyReplacement o.name [f.old] code
      let registry ← (registry.markApplied (f.identifier registry.method)).enterAll
        (o.offersFrom context (f.index + 1) f.line after)
      return {
        registry := registry.setLine (lastLine f.line after)
        locals := (f.replacement.emission.emit s.locals).2
        extraStack := additionalStack [f.old] code
        applied := true
        code := s.code ++ before ++ code ++ after }) := by
  rw [visitFrom_append, visitFrom_spared o context index before s (aimsAt_before hindex h),
    SiteRegistry.enterAll_append]
  cases hr : s.registry.enterAll (o.offersFrom context index s.registry.line before) with
  | error e => rfl
  | ok r =>
    have haim : r.aimsAt f = true := by
      rw [SiteRegistry.enterAll_ok hr, ← h]
      exact SiteRegistry.aimsAt_recordAll s.registry _ f
    have hline' : f.line = lineFrom (lastLine s.registry.line before) f.old := by
      rw [hline, lastLine, List.foldl_append]
      rfl
    rw [ok_map, ok_bind, visitFrom, ← hindex, visit_aimed ho hc hline' haim, ok_bind,
      SiteRegistry.enterAll_cons]
    change (do
      let s ← (r.enter f >>= _)
      visitFrom o context (f.index + 1) after s) = _
    cases he : r.enter f with
    | error e => rfl
    | ok registry =>
      simp only [ok_bind, SiteRegistry.enterAll_nil]
      cases (f.replacement.emission.emit s.locals).1 with
      | error e => rfl
      | ok code =>
        simp only [ok_bind]
        cases verifyReplacement o.name [f.old] code with
        | error e => rfl
        | ok effect =>
          have hregline : registry.line = f.line := by rw [SiteRegistry.enter_ok he]; rfl
          simp only [ok_bind]
          change visitFrom o context (f.index + 1) after _ = _
          rw [visitFrom_spared]
          · simp only [SiteRegistry.markApplied, hregline]
            cases SiteRegistry.enterAll _ (o.offersFrom context (f.index + 1) f.line after) <;> rfl
          · intro g _
            rfl

end PassState

/-! ### Whole passes -/

namespace Offer

/-- The code for the instruction, once it is found to fit, and the allocator after it. -/
def code (f : Offer) (m : MethodBody) : Except BodyError (List Instruction × LocalAllocator) := do
  let emitted := f.replacement.emission.emit ⟨m.maxLocals⟩
  let code ← emitted.1
  let _ ← verifyReplacement f.operator.name [f.old] code
  return (code, emitted.2)

/-- The method with the code in the place of the instruction, unless its stack grows too large. -/
def body (f : Offer) (m : MethodBody) (code : List Instruction) (locals : LocalAllocator) :
    Except BodyError MethodBody :=
  if m.maxStack.toNat + additionalStack [f.old] code ≤ 65535 then
    .ok { m with
      maxStack := m.maxStack + (additionalStack [f.old] code).toUInt16
      maxLocals := locals.next
      instructions := m.instructions.take f.index ++ code ++ m.instructions.drop (f.index + 1) }
  else .error (.frameOverflow .maxStack)

theorem body_eq_ok {f : Offer} {m n : MethodBody} {code : List Instruction}
    {locals : LocalAllocator} (h : f.body m code locals = .ok n) :
    n = { m with
      maxStack := n.maxStack
      maxLocals := locals.next
      instructions := m.instructions.take f.index ++ code ++ m.instructions.drop (f.index + 1) } ∧
      n.maxStack.toNat = m.maxStack.toNat + additionalStack [f.old] code := by
  unfold body at h
  split at h
  · obtain rfl := Except.ok.inj h
    refine ⟨rfl, ?_⟩
    rw [UInt16.toNat_add, Nat.toUInt16_eq, UInt16.toNat_ofNat']
    omega
  · cases h

/-- What becomes of the method if the offer is applied. -/
def apply (f : Offer) (m : MethodBody) : Except BodyError MethodBody := do
  let (code, locals) ← f.code m
  f.body m code locals

end Offer

/-- The offers of an operator before and after one of them, and the code around its instruction. -/
theorem Operator.offers_split {o : Operator} {context : InstructionContext} {f : Offer}
    (h : f ∈ o.offers context) :
    ∃ before after, context.method.instructions = before ++ f.old :: after ∧
      f.index = before.length ∧ f.line = lastLine none (before ++ [f.old]) ∧
      o.offers context = o.offersFrom context 0 none before ++
        f :: o.offersFrom context (f.index + 1) f.line after := by
  obtain ⟨ho, hc, before, after, hcode, hindex, hline⟩ := mem_offersFrom.1 h
  rw [Nat.zero_add] at hindex
  refine ⟨before, after, hcode, hindex, hline, ?_⟩
  have hl : lineFrom (lastLine none before) f.old = f.line := by
    rw [hline, lastLine, lastLine, List.foldl_append]
    rfl
  rw [offers, hcode, offersFrom_append, offersFrom, hc, hl, Nat.zero_add, ← hindex, ← ho]
  rfl

/-- The code around one instruction. -/
theorem take_drop_around {is before after : List Instruction} {i : Instruction} {index : Nat}
    (hcode : is = before ++ i :: after) (hindex : index = before.length) :
    is.take index = before ∧ is.drop (index + 1) = after := by
  subst hcode hindex
  refine ⟨List.take_left, ?_⟩
  rw [← List.drop_drop, List.drop_left]
  rfl

namespace Traversal

variable {context : InstructionContext} {t : Traversal} {o : Operator}

theorem pass_spared (h : ∀ f ∈ o.offers context, t.registry.aimsAt f = false) :
    pass context t o = (t.registry.enterAll (o.offers context)).map fun registry =>
      ⟨registry.setLine (lastLine none context.method.instructions), t.mutated⟩ := by
  rw [pass, PassState.visitFrom_spared o context 0 context.method.instructions
    (PassState.start t.registry context.method) h]
  have hline := SiteRegistry.enterAll_setLine t.registry none
    (lastLine none context.method.instructions) (o.offers context)
    (fun registry => (⟨registry, t.mutated⟩ : Traversal))
  rw [← hline]
  change (Except.map _ ((t.registry.setLine none).enterAll (o.offers context)) >>= _) = _
  cases (t.registry.setLine none).enterAll (o.offers context) with
  | error e => rfl
  | ok registry =>
    have hfit : context.method.maxStack.toNat + 0 ≤ 65535 := by
      have := context.method.maxStack.toNat_lt
      omega
    simp only [ok_map, ok_bind, PassState.body, PassState.start, hfit, if_true]
    rfl

/-- The pass of the target registers what comes before it, applies it, and registers the rest. -/
theorem pass_aimed {f : Offer} (hf : f ∈ o.offers context) (h : t.registry.aimsAt f) :
    ∃ before after, o.offers context = before ++ f :: after ∧
      pass context t o = (do
        let registry ← t.registry.enterAll (before ++ [f])
        let (code, locals) ← f.code context.method
        let registry ← (registry.markApplied (f.identifier registry.method)).enterAll after
        let body ← f.body context.method code locals
        return ⟨registry.setLine (lastLine none context.method.instructions), some body⟩) := by
  obtain ⟨before, after, hcode, hindex, hline, hoffers⟩ := Operator.offers_split hf
  obtain ⟨ho, hc, -⟩ := Operator.mem_offersFrom.1 hf
  refine ⟨_, _, hoffers, ?_⟩
  obtain ⟨htake, hdrop⟩ := take_drop_around hcode hindex
  have hlast : lastLine f.line after = lastLine none context.method.instructions := by
    rw [hcode, hline, lastLine, lastLine, lastLine, ← List.foldl_append, List.append_assoc]
    rfl
  rw [pass, hcode, PassState.visitFrom_aimed ho hc (by rw [hindex, Nat.zero_add]) hline h, ← hcode]
  have hstart : ((PassState.start t.registry context.method).registry.enterAll
      (o.offersFrom context 0 (PassState.start t.registry context.method).registry.line before ++
        [f])) = t.registry.enterAll (o.offersFrom context 0 none before ++ [f]) := by
    change (t.registry.setLine none).enterAll (o.offersFrom context 0 none before ++ [f]) = _
    cases o.offersFrom context 0 none before <;> rfl
  rw [hstart, hlast]
  cases t.registry.enterAll (o.offersFrom context 0 none before ++ [f]) with
  | error e => rfl
  | ok registry =>
    simp only [ok_bind, PassState.start, Offer.code]
    cases (f.replacement.emission.emit ⟨context.method.maxLocals⟩).1 with
    | error e => rfl
    | ok code =>
      simp only [ok_bind, ho]
      cases verifyReplacement o.name [f.old] code with
      | error e => rfl
      | ok effect =>
        simp only [ok_bind]
        cases SiteRegistry.enterAll _ (o.offersFrom context (f.index + 1) f.line after) with
        | error e => rfl
        | ok registry' =>
          have hbody : ∀ locals registry, (⟨registry, locals, additionalStack [f.old] code, true,
              before ++ code ++ after⟩ : PassState).body context.method =
                f.body context.method code locals := by
            intro locals registry
            rw [PassState.body, Offer.body, htake, hdrop]
          simp only [pure_eq_ok, ok_bind, List.nil_append, hbody, if_true]

end Traversal

/-! ### Traversals of methods -/

namespace MutationEngine

variable {e : MutationEngine} {u : ClassUnit} {m : MethodBody} {target : Option MutationIdentifier}

theorem traverse_eq_ok {t : Traversal} :
    e.traverse u m target = .ok t ↔ Traversal.run e.operators ⟨m, e.catalog⟩
      (.start (MethodKey.of u.name m) u.sourceFile target) = .ok t := by
  simp only [traverse]
  cases Traversal.run e.operators ⟨m, e.catalog⟩
    (.start (MethodKey.of u.name m) u.sourceFile target) <;> simp

theorem traverse_of_error {cause : BodyError}
    (h : Traversal.run e.operators ⟨m, e.catalog⟩
      (.start (MethodKey.of u.name m) u.sourceFile target) = .error cause) :
    e.traverse u m target = .error (.aborted (MethodKey.of u.name m).text cause) := by
  simp only [traverse, h]

end MutationEngine

end BytecodeMutation
