import BytecodeMutation.Proofs.Engine.Numbering
import BytecodeMutation.Proofs.Engine.Production

/-! What a mutant depends on. Of all the offers for a method only the one that the identifier names
has a part in its mutant; the passes of the other operators neither fail nor leave a trace. So two
engines agree on a mutant as soon as they agree on that offer. -/

namespace BytecodeMutation

namespace MutationEngine

variable {e e' : MutationEngine} {u : ClassUnit} {m : MethodBody} {id : MutationIdentifier}

/-- The offer for a method of a unit that an identifier names. -/
def offerNamed? (e : MutationEngine) (u : ClassUnit) (m : MethodBody) (id : MutationIdentifier) :
    Option Offer :=
  (e.offersFor m).find? fun f => f.identifier (MethodKey.of u.name m) == id

theorem offerNamed?_eq_some (h : e.operators.Nodup) {f : Offer} :
    e.offerNamed? u m id = some f ↔
      f ∈ e.offersFor m ∧ f.identifier (MethodKey.of u.name m) = id := by
  constructor
  · intro hf
    exact ⟨List.mem_of_find?_eq_some hf, by simpa using List.find?_some hf⟩
  · rintro ⟨hf, hid⟩
    cases hg : e.offerNamed? u m id with
    | none => exact absurd (List.find?_eq_none.1 hg f hf) (by simp [hid])
    | some g =>
      have hidg : g.identifier (MethodKey.of u.name m) = id := by simpa using List.find?_some hg
      rw [List.inj_on_of_nodup_map (nodup_identifiers h ⟨m, e.catalog⟩ (MethodKey.of u.name m))
        (List.mem_of_find?_eq_some hg) hf (hidg.trans hid.symm)]

theorem offerNamed?_eq_none :
    e.offerNamed? u m id = none ↔ id ∉ (e.sitesOf u m).map MutationSite.id := by
  rw [mem_map_id_sitesOf, offerNamed?, List.find?_eq_none]
  simp

/-- What applying an offer makes of a method, as its traversal answers it. -/
def applied (u : ClassUnit) (m : MethodBody) : Option Offer → Except Error (Option MethodBody)
  | none => .ok none
  | some f =>
    match f.apply m with
    | .ok n => .ok (some n)
    | .error cause => .error (.aborted (MethodKey.of u.name m).text cause)

/-- A traversal applies the offer that its target names, and no other. -/
theorem map_mutated_traverse (h : e.operators.Nodup) (u : ClassUnit) (m : MethodBody)
    (id : MutationIdentifier) :
    (e.traverse u m (some id)).map Traversal.mutated = applied u m (e.offerNamed? u m id) := by
  cases hf : e.offerNamed? u m id with
  | none =>
    obtain ⟨t, ht, -, hnone⟩ := traverse_unlisted h (offerNamed?_eq_none.1 hf)
    rw [ht, ok_map, hnone, applied]
  | some f =>
    obtain ⟨hmem, rfl⟩ := (offerNamed?_eq_some h).1 hf
    rcases traverse_targeted h u hmem with ⟨n, t, happly, ht, -, hn⟩ | ⟨cause, happly, ht⟩
    · rw [ht, ok_map, hn, applied, happly]
    · rw [ht, applied, happly]
      rfl

/-- Engines with the same offer for an identifier produce the same mutant. -/
theorem mutate_congr (h : e.operators.Nodup) (h' : e'.operators.Nodup)
    (hoffer : ∀ d k m, MethodDescriptor.ofText? id.method.descriptor = some d →
      u.findMethod? id.method.name d = some k → u.methods[k]? = some m →
      e.offerNamed? u m id = e'.offerNamed? u m id) :
    e.mutate u id = e'.mutate u id := by
  rw [mutate_eq, mutate_eq]
  by_cases howner : u.name ≠ id.method.owner
  · rw [if_pos howner, if_pos howner]
  rw [if_neg howner, if_neg howner]
  cases hd : MethodDescriptor.ofText? id.method.descriptor with
  | none => rfl
  | some d =>
    simp only
    cases hk : u.findMethod? id.method.name d with
    | none => rfl
    | some k =>
      simp only
      cases hm : u.methods[k]? with
      | none => rfl
      | some m =>
        -- both engines go on with the mutated method alone
        have hmutated : (e.traverse u m (some id)).map Traversal.mutated =
            (e'.traverse u m (some id)).map Traversal.mutated := by
          rw [map_mutated_traverse h, map_mutated_traverse h', hoffer d k m hd hk hm]
        exact bind_congr_of_map hmutated fun t t' ht => by rw [ht]

/-! ### Engines with other operators -/

/-- The offers for a method are those of the enabled operators. -/
theorem mem_offersFor {f : Offer} :
    f ∈ e.offersFor m ↔ f.operator ∈ e.operators ∧ f ∈ f.operator.offers ⟨m, e.catalog⟩ :=
  ⟨exists_operator_of_mem_offersFor, fun h => List.mem_flatMap.2 ⟨f.operator, h⟩⟩

/-- Which offer an identifier names depends on the catalog and on its own operator being enabled. -/
theorem offerNamed?_congr (h : e.operators.Nodup) (h' : e'.operators.Nodup)
    (hcatalog : e.catalog = e'.catalog)
    (henabled : Operator.isEnabled e.operators id.operator =
      Operator.isEnabled e'.operators id.operator) :
    e.offerNamed? u m id = e'.offerNamed? u m id := by
  refine Option.ext fun f => ?_
  rw [offerNamed?_eq_some h, offerNamed?_eq_some h', mem_offersFor, mem_offersFor, hcatalog]
  refine and_congr_left fun hid => and_congr_left fun _ => ?_
  have hname : f.operator.name = id.operator := congrArg MutationIdentifier.operator hid
  rw [← Operator.isEnabled_name_iff, ← Operator.isEnabled_name_iff, hname, henabled]

/-- The policies of two engines and all operators but that of the identifier are without influence
on a mutant and on the refusal of one. -/
theorem mutant_depends_on_own_operator (h : Operator.IsChoice e.operators)
    (h' : Operator.IsChoice e'.operators) (hcatalog : e.catalog = e'.catalog)
    (henabled : Operator.isEnabled e.operators id.operator =
      Operator.isEnabled e'.operators id.operator) (u : ClassUnit) :
    e.mutate u id = e'.mutate u id :=
  mutate_congr h.nodup h'.nodup fun _ _ _ _ _ _ =>
    offerNamed?_congr h.nodup h'.nodup hcatalog henabled

end MutationEngine

/-- All operators, the same catalog, and a policy that admits nothing. -/
def Sample.closed : MutationEngine :=
  ⟨⟨fun _ => false, fun _ => false⟩, Operator.all, redirecting.catalog⟩

open MutationEngine Sample in
theorem redirected_caller_of_all_operators :
    Operator.IsChoice closed.operators ∧ Operator.IsChoice redirecting.operators ∧
      closed.catalog = redirecting.catalog ∧
      Operator.isEnabled closed.operators redirectedShift.operator =
        Operator.isEnabled redirecting.operators redirectedShift.operator ∧
      closed.mutate callers redirectedShift = redirecting.mutate callers redirectedShift ∧
      redirecting.mutate callers redirectedShift =
        .ok (callers.setMethod 0 redirectedCaller) := by
  have hclosed : Operator.IsChoice closed.operators := .inl rfl
  have hchoice : Operator.IsChoice redirecting.operators :=
    .inr ⟨["aod_first", "call_replace_parameters"], toOption_eq_some.1 (by decide +kernel)⟩
  have henabled : Operator.isEnabled closed.operators redirectedShift.operator =
      Operator.isEnabled redirecting.operators redirectedShift.operator := by decide +kernel
  exact ⟨hclosed, hchoice, rfl, henabled,
    mutant_depends_on_own_operator hclosed hchoice rfl henabled callers,
    toOption_eq_some.1 (by decide +kernel)⟩

end BytecodeMutation
