import BytecodeMutation.Proofs.Engine.Discovery
import BytecodeMutation.Proofs.Engine.SingleFault

/-! Two traversals of one method, without a target and with any. They list the same sites with the
same numbers, so that an identifier from one traversal means the same in every other. -/

namespace BytecodeMutation.MutationEngine

variable {e : MutationEngine} {u : ClassUnit} {m : MethodBody}

/-- With a target that none of the sites has a traversal lists them all and applies nothing. -/
theorem traverse_unlisted (h : e.operators.Nodup) {target : MutationIdentifier}
    (htarget : target ∉ (e.sitesOf u m).map MutationSite.id) :
    ∃ t, e.traverse u m (some target) = .ok t ∧ t.sites = e.sitesOf u m ∧ t.mutated = none := by
  let registry := SiteRegistry.start (MethodKey.of u.name m) u.sourceFile (some target)
  have hspared : ∀ f ∈ e.offersFor m, registry.aimsAt f = false := by
    refine fun f hf => Bool.eq_false_iff.2 fun haim => ?_
    obtain ⟨-, hid⟩ := SiteRegistry.aimsAt_iff.1 haim
    exact htarget (mem_map_id_sitesOf.2 ⟨f, hf, (Option.some.inj hid).symm⟩)
  obtain ⟨line, hrun⟩ := @Traversal.passes_spared ⟨m, e.catalog⟩ e.operators ⟨registry, none⟩
    (fresh_start h u m _) hspared
  exact ⟨_, traverse_eq_ok.2 hrun, rfl, rfl⟩

/-- With a target that one of the sites has a traversal that succeeds lists them all and mutates. -/
theorem traverse_listed (h : e.operators.Nodup) {target : MutationIdentifier}
    (htarget : target ∈ (e.sitesOf u m).map MutationSite.id) {t : Traversal}
    (ht : e.traverse u m (some target) = .ok t) :
    t.sites = e.sitesOf u m ∧ t.mutated.isSome := by
  obtain ⟨f, hf, rfl⟩ := mem_map_id_sitesOf.1 htarget
  rcases traverse_targeted h u hf with ⟨n, t', -, ht', hsites, hn⟩ | ⟨cause, -, hrefused⟩
  · obtain rfl := Except.ok.inj (ht.symm.trans ht')
    exact ⟨hsites, by rw [hn]; rfl⟩
  · rw [hrefused] at ht
    cases ht

/-- A traversal without a target lists every site once and mutates nothing. A traversal with a
target lists the very same sites, and mutates exactly if the target is one of them; only for such a
target it can be refused. -/
theorem numbering_independent_of_target (h : Operator.IsChoice e.operators) (u : ClassUnit)
    (m : MethodBody) :
    ∃ t, e.traverse u m none = .ok t ∧ (t.sites.map MutationSite.id).Nodup ∧ t.mutated = none ∧
      ∀ target : MutationIdentifier,
        (target ∉ t.sites.map MutationSite.id → ∃ t', e.traverse u m (some target) = .ok t') ∧
        ∀ t', e.traverse u m (some target) = .ok t' →
          t'.sites = t.sites ∧ (t'.mutated.isSome ↔ target ∈ t.sites.map MutationSite.id) := by
  obtain ⟨t, ht, hsites, hnone⟩ := traverse_untargeted h.nodup u m
  refine ⟨t, ht, hsites ▸ nodup_map_id_sitesOf h.nodup u m, hnone, fun target => ?_⟩
  rw [hsites]
  by_cases htarget : target ∈ (e.sitesOf u m).map MutationSite.id
  · refine ⟨fun hunlisted => absurd htarget hunlisted, fun t' ht' => ?_⟩
    obtain ⟨hsame, hmutated⟩ := traverse_listed h.nodup htarget ht'
    exact ⟨hsame, iff_of_true hmutated htarget⟩
  · obtain ⟨s, hs, hsame, hmutated⟩ := traverse_unlisted h.nodup htarget
    refine ⟨fun _ => ⟨s, hs⟩, fun t' ht' => ?_⟩
    obtain rfl := Except.ok.inj (hs.symm.trans ht')
    exact ⟨hsame, by simp [hmutated, htarget]⟩

open Sample in
theorem redirected_caller_keeps_numbering :
    Operator.IsChoice redirecting.operators ∧
      ∃ t t', redirecting.traverse callers caller none = .ok t ∧
        redirecting.traverse callers caller (some redirectedShift) = .ok t' ∧
        t'.sites = t.sites ∧ t'.mutated = some redirectedCaller ∧
        redirectedShift ∈ t.sites.map MutationSite.id := by
  have hchoice : Operator.IsChoice redirecting.operators :=
    .inr ⟨["aod_first", "call_replace_parameters"], toOption_eq_some.1 (by decide +kernel)⟩
  obtain ⟨t, ht, -, -, htarget⟩ := numbering_independent_of_target hchoice callers caller
  have hmutated : ((redirecting.traverse callers caller (some redirectedShift)).toOption.bind
      Traversal.mutated) = some redirectedCaller := by decide +kernel
  cases ht' : redirecting.traverse callers caller (some redirectedShift) with
  | error cause =>
    rw [ht'] at hmutated
    cases hmutated
  | ok t' =>
    rw [ht'] at hmutated
    obtain ⟨hsites, hiff⟩ := (htarget redirectedShift).2 t' ht'
    have hsome : t'.mutated = some redirectedCaller := hmutated
    exact ⟨hchoice, t, t', ht, rfl, hsites, hsome, hiff.1 (by rw [hsome]; rfl)⟩

end BytecodeMutation.MutationEngine
