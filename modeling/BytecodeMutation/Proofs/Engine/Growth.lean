import BytecodeMutation.Proofs.Engine.Independence
import Mathlib.Data.List.Flatten

/-! A catalog that grows at its end. A call that was redirected to a record before goes to the same
record afterwards, since the first record that fits still comes first; calls that fitted no record
may now fit one. So the sites from before stay, in their order and with the same descriptions, and
their mutants stay as they were. -/

namespace BytecodeMutation

variable {c c' : SignatureCatalog}

/-! ### Offers -/

theorem CallMode.candidate?_of_grown {mode : CallMode} {m : MethodBody} {i : Instruction}
    {r : Replacement} (hgrow : c.records <+: c'.records)
    (h : mode.candidate? ⟨m, some c⟩ i = some r) : mode.candidate? ⟨m, some c'⟩ i = some r := by
  cases i with
  | invoke call =>
    simp only [candidate?] at h ⊢
    split at h
    · cases h
    · rename_i hplain
      obtain ⟨record, hrecord, rfl⟩ := Option.map_eq_some_iff.1 h
      have hrecord' : c'.firstCompatible? call mode = some record := hgrow.find?_eq_some hrecord
      refine (if_neg hplain).trans ?_
      rw [hrecord', Option.map_some]
  | _ => cases h

namespace Operator

variable {m : MethodBody} (o : Operator)

theorem candidate?_of_grown {o : Operator} {i : Instruction} {r : Replacement}
    (hgrow : c.records <+: c'.records) (h : o.candidate? ⟨m, some c⟩ i = some r) :
    o.candidate? ⟨m, some c'⟩ i = some r := by
  cases o with
  | redirection mode => exact CallMode.candidate?_of_grown hgrow h
  | _ => exact h

theorem offersFrom_sublist (hgrow : c.records <+: c'.records) (index : Nat)
    (line : Option UInt32) (is : List Instruction) :
    (o.offersFrom ⟨m, some c⟩ index line is).Sublist
      (o.offersFrom ⟨m, some c'⟩ index line is) := by
  induction is generalizing index line with
  | nil => exact .slnil
  | cons i is ih =>
    refine List.Sublist.append ?_ (ih _ _)
    cases hr : o.candidate? ⟨m, some c⟩ i with
    | none => exact List.nil_sublist _
    | some r => rw [candidate?_of_grown hgrow hr]

end Operator

namespace MutationSite

/-- The site without its number, which counts what comes before it in the method. -/
def unnumbered (s : MutationSite) : MutationSite := { s with ordinal := 0 }

theorem map_unnumbered_sitesFrom (key : MethodKey) (file : Option String) (n : Nat)
    (fs : List Offer) :
    (Offer.sitesFrom key file n fs).map unnumbered = fs.map fun f => f.site key file 0 := by
  induction fs generalizing n with
  | nil => rfl
  | cons f fs ih =>
    rw [Offer.sitesFrom, List.map_cons, List.map_cons, ih]
    rfl

end MutationSite

/-! ### Engines -/

/-- The method that a key leads to: the first one with its name and its descriptor. -/
def ClassUnit.methodOf? (u : ClassUnit) (key : MethodKey) : Option MethodBody := do
  let d ← MethodDescriptor.ofText? key.descriptor
  let k ← u.findMethod? key.name d
  u.methods[k]?

/-- The key of a method leads back to it if no two methods share one. -/
theorem ClassUnit.methodOf?_key {u : ClassUnit} {m : MethodBody}
    (h : (u.methods.map fun m => (m.name, m.descriptor)).Nodup) (hread : m.descriptor.IsRead)
    (hm : m ∈ u.methods) : u.methodOf? (MethodKey.of u.name m) = some m := by
  obtain ⟨k, hk⟩ := List.getElem?_of_mem hm
  simp only [methodOf?, MethodKey.of, hread.ofText?_text, Option.bind_eq_bind, Option.bind_some,
    (firstMethod_of_nodup h hk).findMethod?_eq, hk]

namespace MutationEngine

variable (e : MutationEngine) {u : ClassUnit} {m : MethodBody}

def withCatalog (c : SignatureCatalog) : MutationEngine := { e with catalog := some c }

/-- Whether a site is found in a method of a unit. -/
def Lists (u : ClassUnit) (m : MethodBody) (site : MutationSite) : Prop :=
  ∃ t, e.traverse u m none = .ok t ∧ site ∈ t.sites

theorem lists_iff (h : e.operators.Nodup) {site : MutationSite} :
    e.Lists u m site ↔ site ∈ e.sitesOf u m := by
  obtain ⟨t, ht, hsites, -⟩ := traverse_untargeted h u m
  rw [← hsites]
  refine ⟨fun ⟨t', ht', hsite⟩ => ?_, fun hsite => ⟨t, ht, hsite⟩⟩
  rwa [Except.ok.inj (ht.symm.trans ht')]

theorem offersFor_sublist (hgrow : c.records <+: c'.records) (m : MethodBody) :
    ((e.withCatalog c).offersFor m).Sublist ((e.withCatalog c').offersFor m) :=
  .flatMap_right _ fun o _ => o.offersFrom_sublist hgrow 0 none m.instructions

theorem sitesOf_sublist (hgrow : c.records <+: c'.records) (u : ClassUnit) (m : MethodBody) :
    (((e.withCatalog c).sitesOf u m).map MutationSite.unnumbered).Sublist
      (((e.withCatalog c').sitesOf u m).map MutationSite.unnumbered) := by
  rw [sitesOf, sitesOf, MutationSite.map_unnumbered_sitesFrom,
    MutationSite.map_unnumbered_sitesFrom]
  exact (e.offersFor_sublist hgrow m).map _

/-- An identifier that leads back to the method of its site names the same offer as before. -/
theorem offerNamed?_of_grown (h : e.operators.Nodup) (hgrow : c.records <+: c'.records)
    {site : MutationSite} (hsite : site ∈ (e.withCatalog c).sitesOf u m) :
    (e.withCatalog c').offerNamed? u m site.id = (e.withCatalog c).offerNamed? u m site.id := by
  obtain ⟨f, hf, hid⟩ := mem_sitesOf hsite
  have hf' := (e.offersFor_sublist hgrow m).subset hf
  rw [(@offerNamed?_eq_some (e.withCatalog c) u m site.id h f).2 ⟨hf, hid.symm⟩,
    (@offerNamed?_eq_some (e.withCatalog c') u m site.id h f).2 ⟨hf', hid.symm⟩]

theorem mutate_of_grown (h : e.operators.Nodup) (hgrow : c.records <+: c'.records)
    {site : MutationSite} (hsite : site ∈ (e.withCatalog c).sitesOf u m)
    (hown : ∀ n, u.methodOf? site.id.method = some n → n = m) :
    (e.withCatalog c').mutate u site.id = (e.withCatalog c).mutate u site.id := by
  refine mutate_congr h h fun d k n hd hk hn => ?_
  have hfound : u.methodOf? site.id.method = some n := by
    simp only [ClassUnit.methodOf?, hd, Option.bind_eq_bind, Option.bind_some, hk, hn]
  obtain rfl := hown n hfound
  exact e.offerNamed?_of_grown h hgrow hsite

/-- Records at the end of a catalog take no site away and change no description. They change no
mutant either, as long as the identifier leads back to the method in which its site was found. -/
theorem growing_catalog_keeps_mutants (h : Operator.IsChoice e.operators)
    (hgrow : c.records <+: c'.records) (units : List ClassUnit) :
    ∃ sites sites', (e.withCatalog c).discover units = .ok sites ∧
      (e.withCatalog c').discover units = .ok sites' ∧
      (sites.map MutationSite.unnumbered).Sublist (sites'.map MutationSite.unnumbered) ∧
      (∀ site ∈ sites, ∃ u m, (u, m) ∈ e.admittedMethods units ∧
        (e.withCatalog c).Lists u m site) ∧
      ∀ u m site, (e.withCatalog c).Lists u m site →
        (∀ n, u.methodOf? site.id.method = some n → n = m) →
        (e.withCatalog c').mutate u site.id = (e.withCatalog c).mutate u site.id := by
  have hnodup := h.nodup
  refine ⟨_, _, @discover_eq (e.withCatalog c) hnodup units,
    @discover_eq (e.withCatalog c') hnodup units, ?_, ?_, ?_⟩
  · rw [List.map_flatMap, List.map_flatMap]
    exact .flatMap_right _ fun q _ => e.sitesOf_sublist hgrow q.1 q.2
  · intro site hsite
    obtain ⟨⟨u, m⟩, hum, hsite⟩ := List.mem_flatMap.1 hsite
    exact ⟨u, m, hum, ((e.withCatalog c).lists_iff hnodup).2 hsite⟩
  · intro u m site hsite hown
    exact e.mutate_of_grown hnodup hgrow (((e.withCatalog c).lists_iff hnodup).1 hsite) hown

end MutationEngine

/-! ### A shared identifier -/

namespace Sample

def narrowShift : SignatureRecord := ⟨"A", "shift", ⟨[.int], .int⟩, true⟩

/-- Two methods with the same name and the same descriptor, which call for different types. -/
def twins : ClassUnit :=
  ⟨"U", none, [twin .int, twin .float]⟩
where
  twin (ret : ValueType) : MethodBody :=
    ⟨"f", ⟨[], .void⟩, true, 1, 0, [.invoke ⟨.static, "U", "p", ⟨[], ret⟩⟩, .pop, .ret]⟩

def exchanging : MutationEngine := ⟨.admitAll, [.redirection .sameParameters], none⟩

def floats : SignatureCatalog := ⟨0, [⟨"U", "r", ⟨[], .float⟩, true⟩]⟩

def floatsAndInts : SignatureCatalog := ⟨0, floats.records ++ [⟨"U", "s", ⟨[], .int⟩, true⟩]⟩

end Sample

open MutationEngine Sample in
theorem grown_catalog_keeps_redirected_caller :
    Operator.IsChoice redirecting.operators ∧
      [wideShift] <+: [wideShift, narrowShift] ∧
      (∃ sites sites', (redirecting.withCatalog ⟨1, [wideShift]⟩).discover [callers] = .ok sites ∧
        (redirecting.withCatalog ⟨2, [wideShift, narrowShift]⟩).discover [callers] = .ok sites' ∧
        (sites.map MutationSite.unnumbered).Sublist (sites'.map MutationSite.unnumbered)) ∧
      (redirecting.withCatalog ⟨1, [wideShift]⟩).Lists callers caller shiftSite ∧
      (∀ n, callers.methodOf? shiftSite.id.method = some n → n = caller) ∧
      (redirecting.withCatalog ⟨2, [wideShift, narrowShift]⟩).mutate callers shiftSite.id =
        (redirecting.withCatalog ⟨1, [wideShift]⟩).mutate callers shiftSite.id := by
  have hchoice : Operator.IsChoice redirecting.operators :=
    .inr ⟨["aod_first", "call_replace_parameters"], toOption_eq_some.1 (by decide +kernel)⟩
  have hgrow : [wideShift] <+: [wideShift, narrowShift] := List.prefix_append _ [narrowShift]
  have hlists : (redirecting.withCatalog ⟨1, [wideShift]⟩).Lists callers caller shiftSite := by
    refine (lists_iff _ hchoice.nodup).2 ?_
    decide +kernel
  have hown : ∀ n, callers.methodOf? shiftSite.id.method = some n → n = caller := by
    have hread : caller.descriptor.IsRead := ⟨"(IJ)I", by decide +kernel⟩
    have hfound : callers.methodOf? shiftSite.id.method = some caller :=
      ClassUnit.methodOf?_key (by simp [callers]) hread (by simp [callers])
    intro n hn
    exact Option.some.inj (hn.symm.trans hfound)
  obtain ⟨sites, sites', hsites, hsites', hsublist, -, hmutants⟩ :=
    @growing_catalog_keeps_mutants ⟨1, [wideShift]⟩ ⟨2, [wideShift, narrowShift]⟩ redirecting
      hchoice hgrow [callers]
  exact ⟨hchoice, hgrow, ⟨sites, sites', hsites, hsites', hsublist⟩, hlists, hown,
    hmutants callers caller shiftSite hlists hown⟩

open MutationEngine Sample in
/-- A site in the second of two methods with the same key is mutated in the first of them, where a
new record may fit a call that fitted none before. -/
theorem grown_catalog_mutates_twin :
    Operator.IsChoice exchanging.operators ∧ floats.records <+: floatsAndInts.records ∧
      ∃ site mutant, (exchanging.withCatalog floats).discover [twins] = .ok [site] ∧
        (exchanging.withCatalog floats).mutate twins site.id =
          .error (.mutationNotFound site.id.text) ∧
        (exchanging.withCatalog floatsAndInts).mutate twins site.id = .ok mutant := by
  refine ⟨.inr ⟨["call_replace_name"], toOption_eq_some.1 (by decide +kernel)⟩,
    List.prefix_append _ _,
    ⟨0, ⟨⟨"U", "f", "()V"⟩, "call_replace_name", 0⟩, .callSubstitution,
      "Replaced call to U.p with r", ⟨none, none⟩⟩,
    twins.setMethod 0 ⟨"f", ⟨[], .void⟩, true, 1, 0,
      [.invoke ⟨.static, "U", "s", ⟨[], .int⟩⟩, .pop, .ret]⟩,
    toOption_eq_some.1 (by decide +kernel), ?_, toOption_eq_some.1 (by decide +kernel)⟩
  decide +kernel

end BytecodeMutation
