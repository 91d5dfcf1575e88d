import BytecodeMutation.Proofs.Catalog.RoundTrip
import BytecodeMutation.Proofs.ClassUnit.RoundTrip
import BytecodeMutation.Proofs.Engine.SingleFault
import BytecodeMutation.Proofs.Operator.Candidates

/-! Mutants are read back from their JSON text. New code names a descriptor only where a call is
redirected, and that one is the descriptor of the called method or of a record of the catalog; so
mutants of units that were read hold no descriptors but those that can be read. -/

namespace BytecodeMutation

open Instruction

/-! ### New code -/

/-- Whether the descriptors that new code names can be read. -/
def Emission.DescriptorsRead : Emission → Prop
  | sequence code => ∀ j ∈ code, j.DescriptorRead
  | dropOperand _ _ => True
  | redirect _ target => target.descriptor.IsRead

theorem RemovedOperand.descriptorRead_sequence (removed : RemovedOperand) (t : NumericType) :
    ∀ j ∈ removed.sequence t.width, j.DescriptorRead := by
  cases removed <;> cases t <;> simp [sequence, NumericType.width, DescriptorRead]

theorem Redirection.descriptorRead_prologue {old : List ValueType}
    {new : List (ValueType × UInt16)} {j : Instruction} (h : j ∈ prologue old new) :
    j.DescriptorRead := by
  rcases mem_prologue h with ⟨t, rfl⟩ | ⟨⟨t, slot⟩, -, rfl | rfl | rfl⟩
  · unfold drop
    split <;> exact True.intro
  · cases t <;> exact True.intro
  · exact True.intro
  · exact True.intro

theorem Emission.DescriptorsRead.of_emit {e : Emission} (h : e.DescriptorsRead)
    {a b : LocalAllocator} {code : List Instruction} (hemit : e.emit a = (.ok code, b)) :
    ∀ j ∈ code, j.DescriptorRead := by
  cases e with
  | sequence code' =>
    obtain rfl := Except.ok.inj (Prod.mk.inj hemit).1
    exact h
  | dropOperand removed t =>
    rw [emit, removed.prove_sequence, ok_map] at hemit
    obtain rfl := Except.ok.inj (Prod.mk.inj hemit).1
    exact removed.descriptorRead_sequence t
  | redirect call target =>
    obtain ⟨slots, -, -, rfl, -, -⟩ := emit_redirect_ok hemit
    intro j hj
    rcases List.mem_append.1 hj with hj | hj
    · exact Redirection.descriptorRead_prologue hj
    · rw [List.mem_singleton.1 hj]
      exact h

/-! ### Operators -/

theorem Substitution.descriptorRead_of_substitute? {s : Substitution} {i j : Instruction}
    (hi : i.DescriptorRead) (h : s.substitute? i = some j) : j.DescriptorRead := by
  cases substitute?_eq_some_iff.1 h with
  | dynamicRelational => exact hi
  | arithmetic | bitwise | ifZero | ifCompare | dynamicArithmetic => exact True.intro

theorem Literal.descriptorRead_of_pushes {i : Instruction} {v : Literal} (h : i.Pushes v) :
    i.DescriptorRead := by
  cases h <;> exact True.intro

theorem UnaryStep.Rewrites.descriptorRead {i : Instruction} {code : List Instruction}
    (h : Rewrites i code) : ∀ j ∈ code, j.DescriptorRead := by
  cases h with
  | stepped n index up => cases n <;> simp [stepAndLoad, pushOne, DescriptorRead]
  | _ => simp [DescriptorRead]

theorem Operator.descriptorsRead_of_candidate? {o : Operator} {context : InstructionContext}
    {i : Instruction} {r : Replacement} (hi : i.DescriptorRead)
    (hcatalog : ∀ c ∈ context.catalog, c.DescriptorsRead) (h : o.candidate? context i = some r) :
    r.emission.DescriptorsRead := by
  cases o with
  | substitution s =>
    obtain ⟨j, hj, hemission⟩ := Substitution.candidate?_eq_some h
    rw [hemission]
    exact List.forall_mem_singleton.2 (Substitution.descriptorRead_of_substitute? hi hj)
  | elimination removed =>
    obtain ⟨op, t, rfl, hemission⟩ := RemovedOperand.candidate?_eq_some h
    rw [hemission]
    exact True.intro
  | perturbation p =>
    obtain ⟨v, -, -, hemission⟩ := Perturbation.candidate?_eq_some h
    rw [hemission]
    have hpushes := (v.perturb p).pushes_materialize
    exact List.forall_mem_singleton.2 (Literal.descriptorRead_of_pushes hpushes)
  | unaryStep s =>
    obtain ⟨code, hemission, hcode⟩ := UnaryStep.candidate?_rewrites h
    rw [hemission]
    exact hcode.descriptorRead
  | redirection mode =>
    obtain ⟨call, catalog, record, rfl, hsome, hrecord, -, rfl⟩ := CallMode.candidate?_eq_some h
    have hread := hcatalog catalog hsome record (List.mem_of_find?_eq_some hrecord)
    cases mode with
    | sameParameters => exact List.forall_mem_singleton.2 hread
    | sameName => exact hread

/-! ### Mutants -/

theorem SingleFault.descriptorsRead {catalog : Option SignatureCatalog} {o : Operator} {index : Nat}
    {m n : MethodBody} (h : SingleFault catalog o index m n) (hm : m.DescriptorsRead)
    (hcatalog : ∀ c ∈ catalog, c.DescriptorsRead) : n.DescriptorsRead := by
  obtain ⟨old, r, code, locals, hold, hr, hemit, hcode, -⟩ := h.rewritten
  have hread := Operator.descriptorsRead_of_candidate?
    (hm.instructions old (List.mem_of_getElem? hold)) hcatalog hr
  refine ⟨h.descriptor ▸ hm.descriptor, fun j hj => ?_⟩
  rw [hcode, List.mem_append, List.mem_append] at hj
  rcases hj with (hj | hj) | hj
  · exact hm.instructions j (List.mem_of_mem_take hj)
  · exact hread.of_emit hemit j hj
  · exact hm.instructions j (List.mem_of_mem_drop hj)

theorem MutationEngine.descriptorsRead_mutant {e : MutationEngine} {u mutant : ClassUnit}
    {id : MutationIdentifier} (hu : u.DescriptorsRead)
    (hcatalog : ∀ c ∈ e.catalog, c.DescriptorsRead) (h : e.mutate u id = .ok mutant) :
    mutant.DescriptorsRead := by
  obtain ⟨d, k, m, o, f, n, -, -, hm, -, hf, -, hn, rfl⟩ := mutate_ok h
  intro n' hn'
  rcases List.mem_or_eq_of_mem_set hn' with hn' | rfl
  · exact hu n' hn'
  · exact (Offer.singleFault hf hn).descriptorsRead
      (hu m (List.mem_of_getElem? hm.at_position)) hcatalog

/-- A unit without floating-point constants is read back from its text if its descriptors can be
read; that is so for every unit that was read itself, and for the mutants of such units. -/
theorem units_are_read_back :
    (∀ u : ClassUnit, u.IsFloatFree → u.DescriptorsRead → ClassUnit.ofText? u.toText = some u) ∧
    (∀ s u, ClassUnit.ofText? s = some u → u.IsFloatFree →
      ClassUnit.ofText? u.toText = some u) ∧
    ∀ (e : MutationEngine) (u mutant : ClassUnit) (id : MutationIdentifier), u.DescriptorsRead →
      (∀ c ∈ e.catalog, c.DescriptorsRead) → e.mutate u id = .ok mutant → mutant.IsFloatFree →
        ClassUnit.ofText? mutant.toText = some mutant := by
  refine ⟨fun u hfloat hread => ClassUnit.ofText?_toText hfloat hread, ?_, ?_⟩
  · intro s u hs hfloat
    exact ClassUnit.ofText?_toText hfloat (ClassUnit.descriptorsRead_of_ofText? hs)
  · intro e u mutant id hu hcatalog hmutant hfloat
    exact ClassUnit.ofText?_toText hfloat (e.descriptorsRead_mutant hu hcatalog hmutant)

/-! ### A unit with a call -/

namespace Sample

/-- A quote, a backslash, control characters and characters of two and four bytes. -/
def greeting : String := "\x22\\\n\x01é😀"

def ofLong : MethodDescriptor := ⟨[.long], .int⟩

def greet : MethodBody :=
  ⟨"greet", ⟨[.long, .array (.object "B")], .int⟩, true, 2, 3,
    [.label 0, .loadConst (.string greeting), .pop, .load .long 0,
      .invoke ⟨.static, greeting, "hash", ofLong⟩, .increment 2 (-32768),
      .getStatic ⟨greeting, "next", .array .int⟩, .pop, .valueReturn .int]⟩

def greeter : ClassUnit := ⟨greeting, none, [greet]⟩

/-- Calls of `hash` go to `trim`. -/
def trimming : MutationEngine :=
  ⟨.admitAll, [.redirection .sameParameters], some ⟨0, [⟨greeting, "trim", ofLong, true⟩]⟩⟩

def trimmer : ClassUnit :=
  greeter.setMethod 0 { greet with
    instructions := greet.instructions.set 4 (.invoke ⟨.static, greeting, "trim", ofLong⟩) }

theorem isRead_ofLong : ofLong.IsRead := ⟨"(J)I", by decide +kernel⟩

theorem descriptorsRead_greeter : greeter.DescriptorsRead := by
  refine List.forall_mem_singleton.2 ⟨⟨"(J[LB;)I", by decide +kernel⟩, ?_⟩
  simp only [greet, List.forall_mem_cons]
  exact ⟨trivial, trivial, trivial, trivial, isRead_ofLong, trivial, ⟨"[I", by decide +kernel⟩,
    trivial, trivial, nofun⟩

end Sample

open Sample in
theorem greeter_and_mutant_are_read_back :
    ClassUnit.ofText? greeter.toText = some greeter ∧
      trimming.mutate greeter ⟨⟨greeting, "greet", "(J[LB;)I"⟩, "call_replace_name", 4⟩ =
        .ok trimmer ∧
      ClassUnit.ofText? trimmer.toText = some trimmer := by
  have hfree : ∀ m ∈ greeter.methods, ∀ i ∈ m.instructions, i.isFloat = false := by decide
  have hfree' : ∀ m ∈ trimmer.methods, ∀ i ∈ m.instructions, i.isFloat = false := by decide
  have hgreeter := units_are_read_back.1 greeter hfree descriptorsRead_greeter
  have hcatalog : ∀ c ∈ trimming.catalog, c.DescriptorsRead := by
    rintro c ⟨⟩
    exact List.forall_mem_singleton.2 isRead_ofLong
  have hmutant : trimming.mutate greeter
      ⟨⟨greeting, "greet", "(J[LB;)I"⟩, "call_replace_name", 4⟩ = .ok trimmer :=
    toOption_eq_some.1 (by decide +kernel)
  exact ⟨units_are_read_back.2.1 _ greeter hgreeter hfree, hmutant,
    units_are_read_back.2.2 trimming greeter trimmer _ descriptorsRead_greeter hcatalog hmutant
      hfree'⟩

end BytecodeMutation
