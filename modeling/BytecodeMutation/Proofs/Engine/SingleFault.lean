import BytecodeMutation.Proofs.Engine.Passes
import BytecodeMutation.Proofs.Operator.FreshLocals

/-! A mutant has a single fault. Whatever operators are enabled, a traversal applies at most one
offer, the one that the target names, and puts its code in the place of one instruction. The mutant
differs from the unit in that method only, and there only in the code of that instruction and in
the sizes of the frame. -/

namespace BytecodeMutation

/-! ### Traversals -/

namespace Traversal

variable {context : InstructionContext} {operators : List Operator} {key : MethodKey}
  {target : Option MutationIdentifier}

/-- Either nothing was applied yet, or the method is mutated by the offer of the target. -/
def Faithful (operators : List Operator) (context : InstructionContext) (key : MethodKey)
    (target : Option MutationIdentifier) (t : Traversal) : Prop :=
  t.registry.method = key ∧ t.registry.target = target ∧
    match t.mutated with
    | none => t.registry.applied = none
    | some n => t.registry.applied ≠ none ∧ ∃ o ∈ operators, ∃ f ∈ o.offers context,
        target = some (f.identifier key) ∧ f.apply context.method = .ok n

theorem faithful_pass {o : Operator} (ho : o ∈ operators) {t t' : Traversal}
    (ht : t.Faithful operators context key target) (h : pass context t o = .ok t') :
    t'.Faithful operators context key target := by
  obtain ⟨hkey, htarget, hmutated⟩ := ht
  by_cases haim : ∃ f ∈ o.offers context, t.registry.aimsAt f = true
  · obtain ⟨f, hf, haim⟩ := haim
    obtain ⟨before, after, -, hpass⟩ := pass_aimed hf haim
    rw [hpass, bind_eq_ok] at h
    obtain ⟨r, hr, h⟩ := h
    obtain ⟨⟨code, locals⟩, hcode, h⟩ := bind_eq_ok.1 h
    obtain ⟨s, hs, h⟩ := bind_eq_ok.1 h
    obtain ⟨n, hn, h⟩ := bind_eq_ok.1 h
    obtain rfl := Except.ok.inj h
    obtain ⟨line₁, sites₁, registered₁, hr'⟩ := t.registry.recordAll_eq (before ++ [f])
    obtain ⟨line₂, sites₂, registered₂, hs'⟩ := SiteRegistry.recordAll_eq
      (r.markApplied (f.identifier r.method)) after
    rw [← SiteRegistry.enterAll_ok hr] at hr'
    rw [← SiteRegistry.enterAll_ok hs] at hs'
    subst hs' hr'
    have hid := (SiteRegistry.aimsAt_iff.1 haim).2
    refine ⟨hkey, htarget, by simp [SiteRegistry.setLine, SiteRegistry.markApplied], o, ho, f, hf,
      ?_, ?_⟩
    · rw [← htarget, ← hkey, hid]
    · rw [Offer.apply, hcode]
      exact hn
  · have hspared : ∀ f ∈ o.offers context, t.registry.aimsAt f = false := by
      intro f hf
      exact Bool.eq_false_iff.2 fun hf' => haim ⟨f, hf, hf'⟩
    rw [pass_spared hspared] at h
    cases hr : t.registry.enterAll (o.offers context) with
    | error e => rw [hr] at h; cases h
    | ok r =>
      rw [hr] at h
      obtain rfl := Except.ok.inj h
      obtain ⟨line, sites, registered, hr'⟩ := t.registry.recordAll_eq (o.offers context)
      rw [← SiteRegistry.enterAll_ok hr] at hr'
      subst hr'
      exact ⟨hkey, htarget, hmutated⟩

/-- A run that mutates the method does so by the offer of its target. -/
theorem run_applies {file : Option String} {t : Traversal} {n : MethodBody}
    (h : run operators context (.start key file target) = .ok t) (hn : t.mutated = some n) :
    ∃ o ∈ operators, ∃ f ∈ o.offers context,
      target = some (f.identifier key) ∧ f.apply context.method = .ok n := by
  have ht : t.Faithful operators context key target :=
    foldlM_keeps (fun o ho _ _ ht => faithful_pass ho ht) ⟨rfl, rfl, rfl⟩ h
  have hmutated := ht.2.2
  rw [hn] at hmutated
  exact hmutated.2

end Traversal

/-! ### Mutants -/

/-- The first method of a unit with a name and a descriptor, and its position. -/
structure ClassUnit.FirstMethod (u : ClassUnit) (name : String) (descriptor : MethodDescriptor)
    (k : Nat) (m : MethodBody) : Prop where
  at_position : u.methods[k]? = some m
  name_eq : m.name = name
  descriptor_eq : m.descriptor = descriptor
  earliest : ∀ j < k, ∀ n, u.methods[j]? = some n → ¬(n.name = name ∧ n.descriptor = descriptor)

theorem ClassUnit.firstMethod_of_findMethod? {u : ClassUnit} {name : String}
    {descriptor : MethodDescriptor} {k : Nat} {m : MethodBody}
    (h : u.findMethod? name descriptor = some k) (hm : u.methods[k]? = some m) :
    u.FirstMethod name descriptor k m := by
  obtain ⟨hk, heq, hlt⟩ := List.findIdx?_eq_some_iff_getElem.1 h
  obtain rfl : u.methods[k] = m := Option.some.inj ((List.getElem?_eq_getElem hk).symm.trans hm)
  simp only [Bool.and_eq_true, beq_iff_eq] at heq hlt
  refine ⟨hm, heq.1, heq.2, ?_⟩
  intro j hj n hn
  obtain ⟨hj', rfl⟩ := List.getElem?_eq_some_iff.1 hn
  exact hlt j hj

theorem ClassUnit.FirstMethod.findMethod?_eq {u : ClassUnit} {name : String}
    {descriptor : MethodDescriptor} {k : Nat} {m : MethodBody}
    (h : u.FirstMethod name descriptor k m) : u.findMethod? name descriptor = some k := by
  obtain ⟨hlt, rfl⟩ := List.getElem?_eq_some_iff.1 h.at_position
  refine List.findIdx?_eq_some_iff_getElem.2
    ⟨hlt, by simp [h.name_eq, h.descriptor_eq], fun j hj => ?_⟩
  simpa using h.earliest j hj _ (List.getElem?_eq_getElem (Nat.lt_trans hj hlt))

theorem ClassUnit.FirstMethod.getElem?_setMethod {u : ClassUnit} {name : String}
    {descriptor : MethodDescriptor} {k : Nat} {m : MethodBody}
    (h : u.FirstMethod name descriptor k m) (n : MethodBody) :
    (u.setMethod k n).methods[k]? = some n :=
  List.getElem?_set_self (List.getElem?_eq_some_iff.1 h.at_position).1

/-- The stages of a mutation: owner, descriptor, method, traversal. -/
theorem MutationEngine.mutate_eq (e : MutationEngine) (u : ClassUnit) (id : MutationIdentifier) :
    e.mutate u id =
      if u.name ≠ id.method.owner then .error (.methodNotFound id.method.text)
      else match MethodDescriptor.ofText? id.method.descriptor with
        | none => .error (.invalidDescriptor id.method.descriptor)
        | some d =>
          match u.findMethod? id.method.name d with
          | none => .error (.methodNotFound id.method.text)
          | some k =>
            match u.methods[k]? with
            | none => .error (.methodNotFound id.method.text)
            | some m => e.traverse u m (some id) >>= fun t =>
              match t.mutated with
              | some n => .ok (u.setMethod k n)
              | none => .error (.mutationNotFound id.text) := by
  unfold mutate
  by_cases h : u.name ≠ id.method.owner
  · simp only [if_pos h]
    rfl
  · simp only [if_neg h]
    cases MethodDescriptor.ofText? id.method.descriptor <;> rfl

/-- A mutant is made by an offer of an enabled operator for the first method that fits the
identifier. -/
theorem MutationEngine.mutate_ok {e : MutationEngine} {u mutant : ClassUnit}
    {id : MutationIdentifier} (h : e.mutate u id = .ok mutant) :
    ∃ d k m o f n, u.name = id.method.owner ∧
      MethodDescriptor.ofText? id.method.descriptor = some d ∧
      u.FirstMethod id.method.name d k m ∧ o ∈ e.operators ∧ f ∈ o.offers ⟨m, e.catalog⟩ ∧
      f.identifier (MethodKey.of u.name m) = id ∧ f.apply m = .ok n ∧
      mutant = u.setMethod k n := by
  rw [mutate_eq] at h
  by_cases howner : u.name ≠ id.method.owner
  · rw [if_pos howner] at h
    cases h
  rw [if_neg howner] at h
  cases hd : MethodDescriptor.ofText? id.method.descriptor with
  | none => simp only [hd] at h; cases h
  | some d =>
    simp only [hd] at h
    cases hk : u.findMethod? id.method.name d with
    | none => simp only [hk] at h; cases h
    | some k =>
      simp only [hk] at h
      cases hm : u.methods[k]? with
      | none => simp only [hm] at h; cases h
      | some m =>
        simp only [hm] at h
        obtain ⟨t, ht, h⟩ := bind_eq_ok.1 h
        cases hn : t.mutated with
        | none => simp only [hn] at h; cases h
        | some n =>
          simp only [hn] at h
          obtain rfl := Except.ok.inj h
          obtain ⟨o, ho, f, hf, hid, happly⟩ := Traversal.run_applies (traverse_eq_ok.1 ht) hn
          exact ⟨d, k, m, o, f, n, Decidable.not_not.1 howner, rfl,
            ClassUnit.firstMethod_of_findMethod? hk hm, ho, hf, (Option.some.inj hid).symm, happly,
            rfl⟩

theorem Offer.code_eq_ok {f : Offer} {m : MethodBody} {code : List Instruction}
    {locals : LocalAllocator} : f.code m = .ok (code, locals) ↔
      f.replacement.emission.emit ⟨m.maxLocals⟩ = (.ok code, locals) ∧
        ∃ effect, verifyReplacement f.operator.name [f.old] code = .ok effect := by
  simp only [Offer.code, bind_eq_ok, pure_eq_ok, Except.ok.injEq, Prod.mk.injEq]
  constructor
  · rintro ⟨code', hcode, effect, heffect, rfl, rfl⟩
    exact ⟨Prod.ext hcode rfl, effect, heffect⟩
  · rintro ⟨hemit, effect, heffect⟩
    exact ⟨code, by rw [hemit], effect, heffect, rfl, by rw [hemit]⟩

/-- The method `n` is `m` with the instruction at an index replaced by what an operator emits for
it, with fresh locals above those of `m`. -/
structure SingleFault (catalog : Option SignatureCatalog) (o : Operator) (index : Nat)
    (m n : MethodBody) : Prop where
  name : n.name = m.name
  descriptor : n.descriptor = m.descriptor
  isStatic : n.isStatic = m.isStatic
  rewritten : ∃ old r code locals, m.instructions[index]? = some old ∧
    o.candidate? ⟨m, catalog⟩ old = some r ∧ r.emission.emit ⟨m.maxLocals⟩ = (.ok code, locals) ∧
    n.instructions = m.instructions.take index ++ code ++ m.instructions.drop (index + 1) ∧
    n.maxLocals = locals.next ∧ m.maxLocals.toNat ≤ n.maxLocals.toNat ∧
    n.maxStack.toNat = m.maxStack.toNat + additionalStack [old] code

theorem Operator.getElem?_of_mem_offers {o : Operator} {context : InstructionContext} {f : Offer}
    (hf : f ∈ o.offers context) : context.method.instructions[f.index]? = some f.old := by
  obtain ⟨before, after, hcode, hindex, -⟩ := offers_split hf
  rw [hcode, hindex, List.getElem?_append_right (Nat.le_refl _), Nat.sub_self]
  rfl

theorem Offer.singleFault {o : Operator} {m n : MethodBody} {catalog : Option SignatureCatalog}
    {f : Offer} (hf : f ∈ o.offers ⟨m, catalog⟩) (h : f.apply m = .ok n) :
    SingleFault catalog o f.index m n := by
  obtain ⟨⟨code, locals⟩, hcode, hbody⟩ := bind_eq_ok.1 h
  obtain ⟨hemit, -⟩ := Offer.code_eq_ok.1 hcode
  have hlocals := Emission.next_le_of_emit hemit
  obtain ⟨hn, hstack⟩ := Offer.body_eq_ok hbody
  rw [hn]
  refine ⟨rfl, rfl, rfl, f.old, f.replacement, code, locals, ?_, ?_, hemit, rfl, rfl, hlocals,
    hstack⟩
  · exact Operator.getElem?_of_mem_offers hf
  · exact (Operator.mem_offersFrom.1 hf).2.1

/-- Every mutant differs from its unit in one method only, and there by a single fault. -/
theorem mutant_has_single_fault {e : MutationEngine} {u mutant : ClassUnit}
    {id : MutationIdentifier} (h : e.mutate u id = .ok mutant) :
    mutant.name = u.name ∧ mutant.sourceFile = u.sourceFile ∧
      mutant.methods.length = u.methods.length ∧
      ∃ d k m n o, MethodDescriptor.ofText? id.method.descriptor = some d ∧
        u.FirstMethod id.method.name d k m ∧ mutant.methods[k]? = some n ∧
        (∀ j, j ≠ k → mutant.methods[j]? = u.methods[j]?) ∧
        o ∈ e.operators ∧ o.name = id.operator ∧ id.index < m.instructions.length ∧
        SingleFault e.catalog o id.index m n := by
  obtain ⟨d, k, m, o, f, n, -, hd, hm, ho, hf, rfl, hn, rfl⟩ := MutationEngine.mutate_ok h
  have hk : k < u.methods.length := (List.getElem?_eq_some_iff.1 hm.at_position).1
  have hindex := (List.getElem?_eq_some_iff.1 (Operator.getElem?_of_mem_offers hf)).1
  refine ⟨rfl, rfl, List.length_set, d, k, m, n, o, hd, hm, List.getElem?_set_self hk, ?_, ho, ?_,
    hindex, Offer.singleFault hf hn⟩
  · intro j hj
    exact List.getElem?_set_ne hj.symm
  · rw [← (Operator.mem_offersFrom.1 hf).1]
    rfl

/-! ### A redirected call -/

namespace Sample

def shift : MethodRef := ⟨.static, "A", "shift", ⟨[.int, .long], .int⟩⟩

def wideShift : SignatureRecord := ⟨"A", "shift", ⟨[.int, .double, .float], .int⟩, true⟩

def caller : MethodBody :=
  ⟨"run", ⟨[.int, .long], .int⟩, true, 3, 3,
    [.line 7, .load .int 0, .load .long 1, .invoke shift, .valueReturn .int]⟩

def callers : ClassUnit := ⟨"A", some "A.java", [caller]⟩

def redirecting : MutationEngine :=
  ⟨.admitAll, [.elimination .first, .redirection .sameName], some ⟨1, [wideShift]⟩⟩

def redirectedShift : MutationIdentifier :=
  ⟨⟨"A", "run", "(IJ)I"⟩, "call_replace_parameters", 3⟩

/-- The long argument is dropped, and the new parameters get zeros. -/
def redirectedCaller : MethodBody :=
  { caller with
    maxStack := 4
    maxLocals := 7
    instructions := [.line 7, .load .int 0, .load .long 1, .pop2, .doubleConst .zero,
      .store .double 4, .store .int 3, .floatConst .zero, .store .float 6, .load .int 3,
      .load .double 4, .load .float 6, .invoke ⟨.static, "A", "shift", wideShift.descriptor⟩,
      .valueReturn .int] }

end Sample

open Sample in
theorem redirected_call_is_single_fault :
    redirecting.mutate callers redirectedShift = .ok (callers.setMethod 0 redirectedCaller) ∧
      ∃ d k m n o, MethodDescriptor.ofText? "(IJ)I" = some d ∧
        callers.FirstMethod "run" d k m ∧ [redirectedCaller][k]? = some n ∧
        o ∈ redirecting.operators ∧ o.name = "call_replace_parameters" ∧
        SingleFault redirecting.catalog o 3 m n := by
  have h : redirecting.mutate callers redirectedShift =
      .ok (callers.setMethod 0 redirectedCaller) := toOption_eq_some.1 (by decide +kernel)
  obtain ⟨-, -, -, d, k, m, n, o, hd, hm, hn, -, ho, hname, -, hfault⟩ := mutant_has_single_fault h
  exact ⟨h, d, k, m, n, o, hd, hm, hn, ho, hname, hfault⟩

end BytecodeMutation
