import BytecodeMutation.Proofs.Engine.Independence
import BytecodeMutation.Proofs.Operator.Families

/-! Mutants that can be undone. An operator that exchanges one instruction for another with the same
effect on the stack leaves the frame of the method as it is. So a second mutation at the same place
restores the unit if its operator exchanges the instructions the other way, as the substitutions of
a family do for one another and the reversal of increments does for itself. -/

namespace BytecodeMutation

/-! ### Exchanged instructions -/

/-- For the instruction `i` the operator offers `j` alone, in every method and with every catalog,
and `j` has the effect on the stack that `i` has. -/
structure Operator.Turns (o : Operator) (i j : Instruction) : Prop where
  stackEffect_eq : j.stackEffect = i.stackEffect
  offered : ∀ context, ∃ r, o.candidate? context i = some r ∧ r.emission = .sequence [j]

theorem Substitution.turns {s : Substitution} {i j : Instruction} (h : s.substitute? i = some j) :
    (Operator.substitution s).Turns i j := by
  refine ⟨(alike_of_substitute? h).stackEffect_eq, fun context => ⟨.single j (s.describe i j), ?_,
    rfl⟩⟩
  rw [Operator.candidate?, candidate?, h, Option.map_some]

theorem UnaryStep.turns_reverse {delta opposite : Int16} (h : reversed? delta = some opposite)
    (index : UInt16) :
    (Operator.unaryStep .reverse).Turns (.increment index delta) (.increment index opposite) := by
  refine ⟨rfl, fun context => ⟨.single (.increment index opposite) ("Reversed " ++
    changeText index delta opposite), ?_, rfl⟩⟩
  rw [Operator.candidate?, candidate?, h, Option.map_some]

namespace SubstitutionFamily

variable {F G : SubstitutionFamily} {s : Substitution} {i j : Instruction}

/-- Families may have the same substitutions, but they do not share only a few of them. -/
theorem substitutions_eq_of_mem (hF : s ∈ F.substitutions) (hG : s ∈ G.substitutions) :
    F.substitutions = G.substitutions := by
  obtain ⟨i, hi⟩ := mem_substitutions_iff.1 hF
  obtain ⟨j, hj⟩ := mem_substitutions_iff.1 hG
  cases hi <;> cases hj <;> rfl

/-- What one substitution of a family does, the one that has the old operator as its target takes
back. -/
theorem exists_restoring (hs : s ∈ F.substitutions) (h : s.substitute? i = some j) :
    ∃ (G : SubstitutionFamily) (t : Substitution), (t, i) ∈ G.rows ∧ t ∈ F.substitutions ∧
      t.substitute? j = some i := by
  obtain ⟨G, hrow, hi, hne⟩ := substitute?_eq_some_iff_isRow.1 h
  obtain ⟨t, ht⟩ := mem_members_iff.1 hi
  refine ⟨G, t, mem_rows_iff.2 ht, ?_,
    substitute?_eq_some_iff_isRow.2 ⟨G, ht, hrow.mem_members, hne.symm⟩⟩
  rw [substitutions_eq_of_mem hs (mem_substitutions_iff.2 ⟨j, hrow⟩)]
  exact mem_substitutions_iff.2 ⟨i, ht⟩

end SubstitutionFamily

/-! ### Methods with one instruction exchanged -/

/-- The method with another instruction at a place, in the same frame. -/
def MethodBody.withInstruction (m : MethodBody) (index : Nat) (i : Instruction) : MethodBody :=
  { m with instructions := m.instructions.set index i }

section

variable {m : MethodBody} {index : Nat} {i j : Instruction}

theorem MethodBody.withInstruction_restored (h : m.instructions[index]? = some i)
    (j : Instruction) : (m.withInstruction index j).withInstruction index i = m := by
  obtain ⟨hlt, rfl⟩ := List.getElem?_eq_some_iff.1 h
  simp only [withInstruction, List.set_set, List.set_getElem_self]

theorem verifyReplacement_of_stackEffect_eq (h : j.stackEffect = i.stackEffect)
    (operator : String) :
    verifyReplacement operator [i] [j] = .ok (SequenceEffect.of [j]) := by
  have heffect : SequenceEffect.of [i] = SequenceEffect.of [j] := by
    simp only [SequenceEffect.of, DepthTrace.run_cons, h]
  rw [verifyReplacement, heffect]
  exact if_pos ⟨rfl, Nat.le_refl _⟩

theorem additionalStack_of_stackEffect_eq (h : j.stackEffect = i.stackEffect) :
    additionalStack [i] [j] = 0 := by
  simp [additionalStack, SequenceEffect.of, h]

/-- An exchange needs neither more stack nor more locals. -/
theorem Offer.apply_turned {f : Offer} {o : Operator} {catalog : Option SignatureCatalog}
    (hf : f ∈ o.offers ⟨m, catalog⟩) (h : o.Turns f.old j) :
    f.apply m = .ok (m.withInstruction f.index j) := by
  obtain ⟨-, hcandidate, -⟩ := Operator.mem_offersFrom.1 hf
  obtain ⟨r, hr, hemission⟩ := h.offered ⟨m, catalog⟩
  obtain rfl : f.replacement = r := Option.some.inj (hcandidate.symm.trans hr)
  have hcode : f.code m = .ok ([j], ⟨m.maxLocals⟩) :=
    code_eq_ok.2 ⟨by rw [hemission]; rfl, _,
      verifyReplacement_of_stackEffect_eq h.stackEffect_eq f.operator.name⟩
  have hindex : f.index < m.instructions.length :=
    (List.getElem?_eq_some_iff.1 (Operator.getElem?_of_mem_offers hf)).1
  have hstack := additionalStack_of_stackEffect_eq h.stackEffect_eq
  have hfit : m.maxStack.toNat + additionalStack [f.old] [j] ≤ 65535 := by
    have := m.maxStack.toNat_lt
    omega
  calc f.apply m = f.body m [j] ⟨m.maxLocals⟩ := by rw [apply, hcode]; rfl
    _ = .ok (m.withInstruction f.index j) := by
      rw [body, if_pos hfit, hstack, MethodBody.withInstruction,
        List.set_eq_take_append_cons_drop, if_pos hindex]
      simp

theorem Operator.exists_offer {o : Operator} {catalog : Option SignatureCatalog} {r : Replacement}
    (hi : m.instructions[index]? = some i) (hr : o.candidate? ⟨m, catalog⟩ i = some r) :
    ∃ f ∈ o.offers ⟨m, catalog⟩, f.operator = o ∧ f.index = index ∧ f.old = i := by
  obtain ⟨hlt, rfl⟩ := List.getElem?_eq_some_iff.1 hi
  refine ⟨⟨o, index, lastLine none (m.instructions.take index ++ [m.instructions[index]]),
    m.instructions[index], r⟩, mem_offersFrom.2 ⟨rfl, hr, m.instructions.take index,
      m.instructions.drop (index + 1), by simp, ?_, rfl⟩, rfl, rfl, rfl⟩
  rw [List.length_take, Nat.min_eq_left hlt.le, Nat.zero_add]

end

theorem ClassUnit.FirstMethod.setMethod {u : ClassUnit} {name : String}
    {descriptor : MethodDescriptor} {k : Nat} {m n : MethodBody}
    (h : u.FirstMethod name descriptor k m) (hname : n.name = name)
    (hdescriptor : n.descriptor = descriptor) :
    (u.setMethod k n).FirstMethod name descriptor k n := by
  refine ⟨h.getElem?_setMethod n, hname, hdescriptor, fun j hj n' hn' => ?_⟩
  rw [ClassUnit.setMethod, List.getElem?_set_ne (Nat.ne_of_gt hj)] at hn'
  exact h.earliest j hj n' hn'

theorem ClassUnit.setMethod_restored {u : ClassUnit} {k : Nat} {m : MethodBody}
    (h : u.methods[k]? = some m) (n : MethodBody) : (u.setMethod k n).setMethod k m = u := by
  obtain ⟨hlt, rfl⟩ := List.getElem?_eq_some_iff.1 h
  simp only [setMethod, List.set_set, List.set_getElem_self]

/-! ### There and back -/

namespace MutationEngine

variable {e : MutationEngine} {u mutant : ClassUnit} {id : MutationIdentifier} {k index : Nat}
  {m : MethodBody} {o : Operator} {i j : Instruction}

/-- The mutant of an exchange. -/
theorem mutate_turned (hoperators : e.operators.Nodup) (ho : o ∈ e.operators)
    (hread : m.descriptor.IsRead) (hm : u.FirstMethod m.name m.descriptor k m)
    (hi : m.instructions[index]? = some i) (h : o.Turns i j) :
    e.mutate u ⟨MethodKey.of u.name m, o.name, index⟩ =
      .ok (u.setMethod k (m.withInstruction index j)) := by
  obtain ⟨r, hr, -⟩ := h.offered ⟨m, e.catalog⟩
  obtain ⟨f, hf, rfl, rfl, rfl⟩ := Operator.exists_offer hi hr
  have hmutate := mutate_offer hoperators hread hm (mem_offersFor.2 ⟨ho, hf⟩)
  rwa [Offer.apply_turned hf h] at hmutate

/-- The exchange in the other direction finds the method and the place again. -/
theorem mutate_turned_back (hoperators : e.operators.Nodup) (ho : o ∈ e.operators)
    (hread : m.descriptor.IsRead) (hm : u.FirstMethod m.name m.descriptor k m)
    (hi : m.instructions[index]? = some i) (h : o.Turns j i) :
    e.mutate (u.setMethod k (m.withInstruction index j))
      ⟨MethodKey.of u.name m, o.name, index⟩ = .ok u := by
  have hlt : index < m.instructions.length := (List.getElem?_eq_some_iff.1 hi).1
  have hj : (m.withInstruction index j).instructions[index]? = some j :=
    List.getElem?_set_self hlt
  have hn : (u.setMethod k (m.withInstruction index j)).FirstMethod m.name m.descriptor k
      (m.withInstruction index j) := hm.setMethod rfl rfl
  calc e.mutate (u.setMethod k (m.withInstruction index j))
        ⟨MethodKey.of u.name m, o.name, index⟩
    _ = .ok ((u.setMethod k (m.withInstruction index j)).setMethod k
          ((m.withInstruction index j).withInstruction index i)) :=
      @mutate_turned e _ k index (m.withInstruction index j) o j i hoperators ho hread hn hj h
    _ = .ok u := by
      rw [MethodBody.withInstruction_restored hi, ClassUnit.setMethod_restored hm.at_position]

/-- A mutant of an operator that exchanges instructions is undone by every operator that exchanges
them the other way. -/
theorem mutate_undone (hoperators : e.operators.Nodup) (h : e.mutate u id = .ok mutant)
    (hname : id.operator = o.name) :
    o ∈ e.operators ∧ ∃ d k m i r, MethodDescriptor.ofText? id.method.descriptor = some d ∧
      u.FirstMethod id.method.name d k m ∧ m.instructions[id.index]? = some i ∧
      o.candidate? ⟨m, e.catalog⟩ i = some r ∧
      ∀ j, o.Turns i j → ∀ o' ∈ e.operators, o'.Turns j i →
        e.mutate mutant { id with operator := o'.name } = .ok u := by
  obtain ⟨d, k, m, o', f, n, -, hd, hm, ho, hf, rfl, hn, rfl⟩ := mutate_ok h
  obtain ⟨hoperator, hcandidate, -⟩ := Operator.mem_offersFrom.1 hf
  obtain rfl : o' = o := hoperator.symm.trans (Operator.name_injective hname)
  have hi : m.instructions[f.index]? = some f.old := Operator.getElem?_of_mem_offers hf
  refine ⟨ho, d, k, m, f.old, f.replacement, hd, hm, hi, hcandidate, fun j hj o'' ho'' hback => ?_⟩
  obtain rfl : n = m.withInstruction f.index j :=
    Except.ok.inj (hn.symm.trans (Offer.apply_turned hf hj))
  have hfirst : u.FirstMethod m.name m.descriptor k m := by rwa [← hm.descriptor_eq] at hm
  have hread : m.descriptor.IsRead := ⟨_, hm.descriptor_eq ▸ hd⟩
  exact mutate_turned_back hoperators ho'' hread hfirst hi hback

/-- An engine with all substitutions of a family undoes their mutants, by the substitution that has
the operator of the original instruction as its target, and it undoes the reversal of an increment
by the same reversal. The unit comes back as it was, with the code and the frames of its methods. -/
theorem exchanges_are_undone (hoperators : Operator.IsChoice e.operators)
    (h : e.mutate u id = .ok mutant) :
    (∀ (F : SubstitutionFamily) (s : Substitution),
      (∀ t ∈ F.substitutions, .substitution t ∈ e.operators) → s ∈ F.substitutions →
      id.operator = s.name →
      ∃ d k m i t, MethodDescriptor.ofText? id.method.descriptor = some d ∧
        u.FirstMethod id.method.name d k m ∧ m.instructions[id.index]? = some i ∧
        (∃ G : SubstitutionFamily, (t, i) ∈ G.rows) ∧ t ∈ F.substitutions ∧
        e.mutate mutant { id with operator := t.name } = .ok u) ∧
    (id.operator = "uoi_reverse" → e.mutate mutant id = .ok u) := by
  constructor
  · intro F s hF hs hname
    obtain ⟨-, d, k, m, i, r, hd, hm, hi, hr, hundone⟩ :=
      @mutate_undone e u mutant id (.substitution s) hoperators.nodup h hname
    obtain ⟨j, hj, -⟩ := Substitution.candidate?_eq_some hr
    obtain ⟨G, t, hrow, ht, hback⟩ := SubstitutionFamily.exists_restoring hs hj
    exact ⟨d, k, m, i, t, hd, hm, hi, ⟨G, hrow⟩, ht,
      hundone j (Substitution.turns hj) _ (hF t ht) (Substitution.turns hback)⟩
  · intro hname
    obtain ⟨ho, d, k, m, i, r, -, -, -, hr, hundone⟩ :=
      @mutate_undone e u mutant id (.unaryStep .reverse) hoperators.nodup h hname
    obtain ⟨index, delta, opposite, rfl, hopposite, -⟩ := UnaryStep.candidate?_reverse_eq_some hr
    have hback := UnaryStep.reversed?_of_reversed? hopposite
    have hmutate := hundone _ (UnaryStep.turns_reverse hopposite index) _ ho
      (UnaryStep.turns_reverse hback index)
    rwa [show Operator.name (.unaryStep .reverse) = id.operator from hname.symm] at hmutate

end MutationEngine

/-! ### A loop that counts down -/

namespace Sample

def countdown : MethodBody :=
  ⟨"count", ⟨[.int], .void⟩, true, 1, 1,
    [.label 0, .increment 0 (-1), .load .int 0, .ifZero .gt 0, .ret]⟩

def countdowns : ClassUnit := ⟨"A", none, [countdown]⟩

def branching : MutationEngine :=
  ⟨.admitAll, Operator.all.filter fun o => ["ror", "uoi_reverse"].any o.isSelectedBy, none⟩

def reachedZero : MutationIdentifier := ⟨⟨"A", "count", "(I)V"⟩, "ror_ifeq", 3⟩

def countsUp : MutationIdentifier := ⟨⟨"A", "count", "(I)V"⟩, "uoi_reverse", 1⟩

end Sample

open MutationEngine Sample in
theorem countdown_restored :
    Operator.IsChoice branching.operators ∧
      (∃ mutant, branching.mutate countdowns reachedZero = .ok mutant ∧ mutant ≠ countdowns ∧
        branching.mutate mutant { reachedZero with operator := "ror_ifgt" } = .ok countdowns) ∧
      ∃ mutant, branching.mutate countdowns countsUp = .ok mutant ∧ mutant ≠ countdowns ∧
        branching.mutate mutant countsUp = .ok countdowns := by
  have hchoice : Operator.IsChoice branching.operators :=
    .inr ⟨["ror", "uoi_reverse"], toOption_eq_some.1 (by decide +kernel)⟩
  have hzero : branching.mutate countdowns reachedZero = .ok (countdowns.setMethod 0
      (countdown.withInstruction 3 (.ifZero .eq 0))) := toOption_eq_some.1 (by decide +kernel)
  have hup : branching.mutate countdowns countsUp = .ok (countdowns.setMethod 0
      (countdown.withInstruction 1 (.increment 0 1))) := toOption_eq_some.1 (by decide +kernel)
  refine ⟨hchoice, ⟨_, hzero, by decide, ?_⟩, ⟨_, hup, by decide, ?_⟩⟩
  · obtain ⟨d, k, m, i, t, hd, hm, hi, ⟨G, hrow⟩, -, hrestored⟩ :=
      (exchanges_are_undone hchoice hzero).1 (.ifZero 0) (.relational .eq) (by decide +kernel)
        (by decide) rfl
    obtain ⟨hlt, rfl⟩ := List.getElem?_eq_some_iff.1 hm.at_position
    obtain rfl : k = 0 := Nat.lt_one_iff.1 hlt
    obtain rfl := Option.some.inj hi
    cases SubstitutionFamily.mem_rows_iff.1 hrow
    exact hrestored
  · exact (exchanges_are_undone hchoice hup).2 rfl

end BytecodeMutation
