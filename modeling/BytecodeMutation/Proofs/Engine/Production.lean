import BytecodeMutation.Proofs.Descriptor.RoundTrip
import BytecodeMutation.Proofs.Engine.Discovery
import BytecodeMutation.Proofs.Engine.SingleFault
import BytecodeMutation.Proofs.Operator.Candidates

/-! What was discovered can be produced. The mutant of a site comes out of the method in which the
site was found; only a method whose frame would grow too large, and a void parameter that has no
default value, are refused. -/

namespace BytecodeMutation

/-- What applying an operator to an instruction of a method comes to: one of three refusals, in the
order in which they are met, or the method with a single fault. -/
structure Outcome (catalog : Option SignatureCatalog) (o : Operator) (m : MethodBody)
    (index : Nat) (old : Instruction) (result : Except BodyError MethodBody) : Prop where
  locals_overflow : ∀ record, o.chosenRecord? catalog old = some record →
    65535 < m.maxLocals.toNat + record.descriptor.argumentSlots →
    result = .error (.frameOverflow .maxLocals)
  void_parameter : ∀ call record, old = .invoke call →
    o.chosenRecord? catalog old = some record →
    m.maxLocals.toNat + record.descriptor.argumentSlots ≤ 65535 →
    ValueType.void ∈ record.descriptor.params →
    result = .error (Redirection.noDefault (CallMode.target call record))
  emitted : (∀ record, o.chosenRecord? catalog old = some record →
      m.maxLocals.toNat + record.descriptor.argumentSlots ≤ 65535 ∧
        ValueType.void ∉ record.descriptor.params) →
    ∃ r code locals, o.candidate? ⟨m, catalog⟩ old = some r ∧
      r.emission.emit ⟨m.maxLocals⟩ = (.ok code, locals) ∧
      (65535 < m.maxStack.toNat + additionalStack [old] code →
        result = .error (.frameOverflow .maxStack)) ∧
      (m.maxStack.toNat + additionalStack [old] code ≤ 65535 →
        ∃ n, result = .ok n ∧ SingleFault catalog o index m n)

namespace Offer

variable {f : Offer} {m : MethodBody} {catalog : Option SignatureCatalog} {o : Operator}

theorem apply_of_emit_error {cause : BodyError}
    (h : (f.replacement.emission.emit ⟨m.maxLocals⟩).1 = .error cause) :
    f.apply m = .error cause := by
  rw [apply, code, h]
  rfl

/-- Code that stands in for the instruction passes verification. -/
theorem code_of_standsIn {code : List Instruction} {locals : LocalAllocator}
    (hemit : f.replacement.emission.emit ⟨m.maxLocals⟩ = (.ok code, locals))
    (hcode : StandsIn f.old code m.maxLocals.toNat locals.next.toNat)
    (hfit : f.old.stackEffect.pops ≤ 65535) : f.code m = .ok (code, locals) :=
  code_eq_ok.2 ⟨hemit, _, hcode.verified hfit f.operator.name⟩

/-- Once the code is emitted, only the depth of the stack is left to refuse. -/
theorem apply_of_code (hf : f ∈ o.offers ⟨m, catalog⟩) {code : List Instruction}
    {locals : LocalAllocator} (hcode : f.code m = .ok (code, locals)) :
    (65535 < m.maxStack.toNat + additionalStack [f.old] code →
      f.apply m = .error (.frameOverflow .maxStack)) ∧
    (m.maxStack.toNat + additionalStack [f.old] code ≤ 65535 →
      ∃ n, f.apply m = .ok n ∧ SingleFault catalog o f.index m n) := by
  have happly : f.apply m = f.body m code locals := by
    rw [apply, hcode]
    rfl
  rw [happly, body]
  constructor
  · intro hover
    rw [if_neg (by omega)]
  · intro hfit
    rw [if_pos hfit]
    refine ⟨_, rfl, singleFault hf ?_⟩
    rw [happly, body, if_pos hfit]

/-- Only calls take more than a few slots. -/
theorem pops_le (i : Instruction)
    (h : ∀ call, i = .invoke call → call.descriptor.argumentSlots + call.receiverSlots ≤ 65535) :
    i.stackEffect.pops ≤ 65535 := by
  cases i with
  | invoke call => exact h call rfl
  | putField field | putStatic field =>
    have hwidth := field.descriptor.width_le_two
    simp only [Instruction.stackEffect]
    omega
  | store t | arith _ t | neg t | bitwise _ t | shift _ t | convert t | compare t | valueReturn t =>
    cases t <;> exact Nat.le_of_ble_eq_true rfl
  | _ => exact Nat.le_of_ble_eq_true rfl

theorem outcome (hf : f ∈ o.offers ⟨m, catalog⟩)
    (hcalls : ∀ call, f.old = .invoke call → ValueType.void ∉ call.descriptor.params ∧
      call.descriptor.argumentSlots + call.receiverSlots ≤ 65535) :
    Outcome catalog o m f.index f.old (f.apply m) := by
  obtain ⟨-, hcandidate, -⟩ := Operator.mem_offersFrom.1 hf
  have hfit := pops_le f.old fun call hcall => (hcalls call hcall).2
  rcases Operator.candidate_cases hcandidate with
    ⟨hnone, code, hemit, hcode⟩ | ⟨call, record, rfl, hold, hrecord, hret, hemission⟩
  · refine ⟨fun record hrecord => ?_, fun _ record _ hrecord => ?_, fun _ => ?_⟩
    · rw [hnone] at hrecord
      cases hrecord
    · rw [hnone] at hrecord
      cases hrecord
    · have happly := apply_of_code hf (code_of_standsIn (hemit ⟨m.maxLocals⟩) (hcode _) hfit)
      exact ⟨f.replacement, code, ⟨m.maxLocals⟩, hcandidate, hemit _, happly⟩
  · obtain ⟨hvoid, -⟩ := hcalls call hold
    have hrecord_eq : ∀ record', Operator.chosenRecord? (.redirection .sameName) catalog f.old =
        some record' → record' = record := by
      intro record' hrecord'
      exact Option.some.inj (hrecord'.symm.trans hrecord)
    refine ⟨fun record' hrecord' hover => ?_, fun call' record' hold' hrecord' hfits hvoid' => ?_,
      fun h => ?_⟩
    · obtain rfl := hrecord_eq record' hrecord'
      refine apply_of_emit_error ?_
      rw [hemission]
      exact Emission.emit_redirect_overflows hover
    · obtain rfl := hrecord_eq record' hrecord'
      obtain rfl : call = call' := Instruction.invoke.inj (hold.symm.trans hold')
      obtain ⟨slots, b, hemit, hlength, -, -⟩ := @Emission.emit_redirect_fits call
        (CallMode.target call record') ⟨m.maxLocals⟩ hfits
      refine apply_of_emit_error ?_
      rw [hemission, hemit]
      exact Redirection.marshal_refused hvoid hvoid' hlength
    · obtain ⟨hfits, hvoid'⟩ := h record hrecord
      obtain ⟨slots, b, hemit, hlength, -, -⟩ := @Emission.emit_redirect_fits call
        (CallMode.target call record) ⟨m.maxLocals⟩ hfits
      rw [Redirection.marshal_eq hvoid'] at hemit
      have hkind : (CallMode.target call record).kind = call.kind := rfl
      have hcode := StandsIn.redirected hkind hret hvoid hemit
      rw [← hold] at hcode
      rw [← hemission] at hemit
      exact ⟨f.replacement, _, b, hcandidate, hemit,
        apply_of_code hf (code_of_standsIn hemit hcode hfit)⟩

end Offer

/-! ### Methods and their keys -/

/-- Units whose methods can be told apart by owner, name and descriptor, with descriptors that were
read from a text and calls whose operands fit into a frame. -/
structure WellFormedUnits (units : List ClassUnit) : Prop where
  names : (units.map ClassUnit.name).Nodup
  methods : ∀ u ∈ units, (u.methods.map fun m => (m.name, m.descriptor)).Nodup
  descriptors : ∀ u ∈ units, ∀ m ∈ u.methods, m.descriptor.IsRead
  calls : ∀ u ∈ units, ∀ m ∈ u.methods, ∀ call, .invoke call ∈ m.instructions →
    call.descriptor.IsRead ∧ call.descriptor.argumentSlots + call.receiverSlots ≤ 65535

/-- Where methods can be told apart, each of them is the first of its name and descriptor. -/
theorem ClassUnit.firstMethod_of_nodup {u : ClassUnit} {k : Nat} {m : MethodBody}
    (h : (u.methods.map fun m => (m.name, m.descriptor)).Nodup) (hk : u.methods[k]? = some m) :
    u.FirstMethod m.name m.descriptor k m := by
  refine ⟨hk, rfl, rfl, fun j hj n hn heq => ?_⟩
  obtain ⟨hlt, rfl⟩ := List.getElem?_eq_some_iff.1 hk
  obtain ⟨hlt', rfl⟩ := List.getElem?_eq_some_iff.1 hn
  have hjk := (List.pairwise_iff_getElem.1 h) j k (by simpa using hlt') (by simpa using hlt) hj
  simp only [List.getElem_map, ne_eq, Prod.mk.injEq] at hjk
  exact hjk heq

theorem find?_name_eq_some {units : List ClassUnit} (h : (units.map ClassUnit.name).Nodup)
    {u : ClassUnit} (hu : u ∈ units) : (units.find? fun v => v.name == u.name) = some u := by
  cases hfind : units.find? fun v => v.name == u.name with
  | none =>
    have := List.find?_eq_none.1 hfind u hu
    simp at this
  | some v =>
    have hname : v.name = u.name := by
      simpa using List.find?_some (p := fun v : ClassUnit => v.name == u.name) hfind
    rw [List.inj_on_of_nodup_map h (List.mem_of_find?_eq_some hfind) hu hname]

namespace MutationEngine

variable {e : MutationEngine} {units : List ClassUnit}

theorem mem_admittedMethods {u : ClassUnit} {m : MethodBody} :
    (u, m) ∈ e.admittedMethods units ↔ u ∈ units ∧ e.policy.admitsClass u.name = true ∧
      m ∈ u.methods ∧ e.policy.admitsMethod m.name = true := by
  simp only [admittedMethods, List.mem_flatMap, List.mem_filter, List.mem_map, Prod.mk.injEq]
  constructor
  · rintro ⟨v, ⟨hv, hclass⟩, n, ⟨hn, hmethod⟩, rfl, rfl⟩
    exact ⟨hv, hclass, hn, hmethod⟩
  · rintro ⟨hu, hclass, hm, hmethod⟩
    exact ⟨u, ⟨hu, hclass⟩, m, ⟨hm, hmethod⟩, rfl, rfl⟩

theorem pairwise_keys (h : WellFormedUnits units) :
    (e.admittedMethods units).Pairwise fun p q =>
      MethodKey.of p.1.name p.2 ≠ MethodKey.of q.1.name q.2 := by
  rw [admittedMethods, List.pairwise_flatMap]
  constructor
  · intro u hu
    have humem := List.mem_of_mem_filter hu
    rw [List.pairwise_map]
    have hmethods := (List.pairwise_map.1 (h.methods u humem)).filter
      (fun m => e.policy.admitsMethod m.name)
    refine hmethods.imp_of_mem ?_
    intro m n hm hn hne hkey
    have hm := h.descriptors u humem m (List.mem_of_mem_filter hm)
    have hn := h.descriptors u humem n (List.mem_of_mem_filter hn)
    simp only [MethodKey.of, MethodKey.mk.injEq, true_and] at hkey
    exact hne (Prod.ext hkey.1 (hm.text_inj hn hkey.2))
  · have hnames := (List.pairwise_map.1 h.names).filter (fun u => e.policy.admitsClass u.name)
    refine hnames.imp ?_
    intro u v hne p hp q hq hkey
    obtain ⟨m, -, rfl⟩ := List.mem_map.1 hp
    obtain ⟨n, -, rfl⟩ := List.mem_map.1 hq
    exact hne (congrArg MethodKey.owner hkey)

theorem nodup_discovered (hoperators : e.operators.Nodup) (h : WellFormedUnits units) :
    (((e.admittedMethods units).flatMap fun (u, m) => e.sitesOf u m).map
      MutationSite.id).Nodup := by
  rw [List.map_flatMap, List.Nodup, List.pairwise_flatMap]
  constructor
  · rintro ⟨u, m⟩ -
    exact nodup_map_id_sitesOf hoperators u m
  · refine (pairwise_keys h).imp ?_
    rintro ⟨u, m⟩ ⟨v, n⟩ hkey id hid id' hid' heq
    obtain ⟨f, -, rfl⟩ := mem_map_id_sitesOf.1 hid
    obtain ⟨g, -, rfl⟩ := mem_map_id_sitesOf.1 hid'
    exact hkey (congrArg MutationIdentifier.method heq)

/-! ### Mutants of sites -/

/-- What the production of a site in the method at a position of a unit answers. -/
def produced (u : ClassUnit) (k : Nat) (m : MethodBody) (site : MutationSite) :
    Except BodyError MethodBody → Except Error (MutationSite × ClassUnit)
  | .ok n => .ok (site, u.setMethod k n)
  | .error cause => .error (.aborted (MethodKey.of u.name m).text cause)

/-- The mutant that an offer for a method names is made by that offer. -/
theorem mutate_offer (hoperators : e.operators.Nodup) {u : ClassUnit} {k : Nat} {m : MethodBody}
    (hread : m.descriptor.IsRead) (hm : u.FirstMethod m.name m.descriptor k m) {f : Offer}
    (hf : f ∈ e.offersFor m) :
    e.mutate u (f.identifier (MethodKey.of u.name m)) = match f.apply m with
      | .ok n => .ok (u.setMethod k n)
      | .error cause => .error (.aborted (MethodKey.of u.name m).text cause) := by
  have hmutate := e.mutate_eq u (f.identifier (MethodKey.of u.name m))
  simp only [Offer.identifier, MethodKey.of, ne_eq, not_true_eq_false, if_false,
    hread.ofText?_text, hm.findMethod?_eq, hm.at_position] at hmutate
  rcases traverse_targeted hoperators u hf with ⟨n, t, happly, ht, -, hn⟩ | ⟨cause, happly, ht⟩
  · simp only [Offer.identifier, MethodKey.of] at ht ⊢
    rw [hmutate, ht, ok_bind, hn, happly]
  · simp only [Offer.identifier, MethodKey.of] at ht ⊢
    rw [hmutate, ht, happly]
    rfl

theorem mem_sitesOf {u : ClassUnit} {m : MethodBody} {site : MutationSite}
    (h : site ∈ e.sitesOf u m) :
    ∃ f ∈ e.offersFor m, site.id = f.identifier (MethodKey.of u.name m) := by
  obtain ⟨f, hf, hid⟩ := mem_map_id_sitesOf.1 (List.mem_map_of_mem h)
  exact ⟨f, hf, hid.symm⟩

/-- The mutant of a listed site is made from the method of the site. -/
theorem mutateAt_site (hoperators : e.operators.Nodup) (h : WellFormedUnits units)
    {sites : List MutationSite} {n : Nat} {site : MutationSite} (hn : sites[n]? = some site)
    {u : ClassUnit} (hu : u ∈ units) {k : Nat} {m : MethodBody} (hk : u.methods[k]? = some m)
    {f : Offer} (hf : f ∈ e.offersFor m) (hid : site.id = f.identifier (MethodKey.of u.name m)) :
    e.mutateAt units sites n = produced u k m site (f.apply m) := by
  have hm : m ∈ u.methods := List.mem_of_getElem? hk
  have howner : site.id.method.owner = u.name := by rw [hid]; rfl
  have hfirst := ClassUnit.firstMethod_of_nodup (h.methods u hu) hk
  have hmutate := mutate_offer hoperators (h.descriptors u hu m hm) hfirst hf
  simp only [mutateAt, hn, howner, find?_name_eq_some h.names hu]
  rw [hid, hmutate]
  cases f.apply m <;> rfl

theorem produced_ne_notFound {u : ClassUnit} {k : Nat} {m : MethodBody} {site : MutationSite}
    {result : Except BodyError MethodBody} {text : String} :
    produced u k m site result ≠ .error (.mutationNotFound text) := by
  cases result <;> simp [produced]

theorem mutateNth_eq (hoperators : e.operators.Nodup) (n : Nat) : e.mutateNth units n =
    e.mutateAt units ((e.admittedMethods units).flatMap fun (u, m) => e.sitesOf u m) n := by
  rw [mutateNth, discover_eq hoperators, ok_bind]

/-- An offer of an engine is one of an enabled operator. -/
theorem exists_operator_of_mem_offersFor {m : MethodBody} {f : Offer} (hf : f ∈ e.offersFor m) :
    f.operator ∈ e.operators ∧ f ∈ f.operator.offers ⟨m, e.catalog⟩ := by
  obtain ⟨o, ho, hf⟩ := List.mem_flatMap.1 hf
  obtain ⟨rfl, -⟩ := Operator.mem_offersFrom.1 hf
  exact ⟨ho, hf⟩

/-- Every discovered site has its mutant, made from the method in which it was found, unless the
frame of that method grows too large or a void parameter has no default value; numbers that no site
has are not found. -/
theorem discovered_sites_are_produced (e : MutationEngine)
    (hoperators : Operator.IsChoice e.operators) {units : List ClassUnit}
    (h : WellFormedUnits units) :
    ∃ sites, e.discover units = .ok sites ∧ (sites.map MutationSite.id).Nodup ∧
      (∀ n, (∃ text, e.mutateNth units n = .error (.mutationNotFound text)) ↔
        sites.length ≤ n) ∧
      ∀ n site, sites[n]? = some site → ∃ u ∈ units, ∃ k m t, u.methods[k]? = some m ∧
        e.traverse u m none = .ok t ∧ site ∈ t.sites ∧
        ∃ o ∈ e.operators, o.name = site.id.operator ∧
          ∃ old, m.instructions[site.id.index]? = some old ∧
            ∃ result, Outcome e.catalog o m site.id.index old result ∧
              e.mutateNth units n = produced u k m site result := by
  have hnodup := hoperators.nodup
  have hsite : ∀ n site, ((e.admittedMethods units).flatMap fun (u, m) => e.sitesOf u m)[n]? =
      some site → ∃ u ∈ units, ∃ k m f, u.methods[k]? = some m ∧ site ∈ e.sitesOf u m ∧
        f ∈ e.offersFor m ∧ site.id = f.identifier (MethodKey.of u.name m) ∧
        e.mutateNth units n = produced u k m site (f.apply m) := by
    intro n site hn
    obtain ⟨⟨u, m⟩, hum, hsite⟩ := List.mem_flatMap.1 (List.mem_of_getElem? hn)
    obtain ⟨hu, -, hm, -⟩ := mem_admittedMethods.1 hum
    obtain ⟨k, hk⟩ := List.getElem?_of_mem hm
    obtain ⟨f, hf, hid⟩ := mem_sitesOf hsite
    refine ⟨u, hu, k, m, f, hk, hsite, hf, hid, ?_⟩
    rw [mutateNth_eq hnodup, mutateAt_site hnodup h hn hu hk hf hid]
  refine ⟨_, discover_eq hnodup units, nodup_discovered hnodup h, fun n => ?_, ?_⟩
  · constructor
    · rintro ⟨text, htext⟩
      refine List.getElem?_eq_none_iff.1 (Option.eq_none_iff_forall_ne_some.2 fun site hn => ?_)
      obtain ⟨u, -, k, m, f, -, -, -, -, hproduced⟩ := hsite n site hn
      exact produced_ne_notFound (hproduced.symm.trans htext)
    · intro hn
      rw [mutateNth_eq hnodup, mutateAt, List.getElem?_eq_none_iff.2 hn]
      exact ⟨_, rfl⟩
  · intro n site hn
    obtain ⟨u, hu, k, m, f, hk, hsite, hf, hid, hproduced⟩ := hsite n site hn
    obtain ⟨t, ht, hsites, -⟩ := traverse_untargeted hnodup u m
    obtain ⟨ho, hoffer⟩ := exists_operator_of_mem_offersFor hf
    have hold := Operator.getElem?_of_mem_offers hoffer
    have hm : m ∈ u.methods := List.mem_of_getElem? hk
    have houtcome := Offer.outcome hoffer fun call hcall => by
      have hcalls := h.calls u hu m hm call (hcall ▸ List.mem_of_getElem? hold)
      exact ⟨hcalls.1.void_notMem_params, hcalls.2⟩
    refine ⟨u, hu, k, m, t, hk, ht, hsites ▸ hsite, f.operator, ho, ?_, f.old, ?_, f.apply m, ?_,
      hproduced⟩
    · rw [hid]
      rfl
    · rw [hid]
      exact hold
    · rw [hid]
      exact houtcome

end MutationEngine

/-- The only site of the sample unit. -/
def Sample.shiftSite : MutationSite :=
  ⟨0, redirectedShift, .callSubstitution, "Replaced call to A.shift(IJ)I with shift(IDF)I",
    ⟨some "A.java", some 7⟩⟩

open MutationEngine Sample in
theorem callers_sites_are_produced :
    Operator.IsChoice redirecting.operators ∧ WellFormedUnits [callers] ∧
      ∃ sites, redirecting.discover [callers] = .ok sites ∧
        (sites.map MutationSite.id).Nodup ∧
        (∀ n, (∃ text, redirecting.mutateNth [callers] n = .error (.mutationNotFound text)) ↔
          sites.length ≤ n) ∧
        ∃ result, Outcome redirecting.catalog (.redirection .sameName) caller 3 (.invoke shift)
            result ∧
          redirecting.mutateNth [callers] 0 = produced callers 0 caller shiftSite result := by
  have hchoice : Operator.IsChoice redirecting.operators :=
    .inr ⟨["aod_first", "call_replace_parameters"], toOption_eq_some.1 (by decide +kernel)⟩
  have hread : MethodDescriptor.IsRead ⟨[.int, .long], .int⟩ := ⟨"(IJ)I", by decide +kernel⟩
  have hunits : WellFormedUnits [callers] := by
    refine ⟨by decide, ?_, ?_, ?_⟩
    · simp [callers]
    · simpa [callers, caller] using hread
    · simpa [callers, caller, shift, MethodDescriptor.argumentSlots, ValueType.width,
        MethodRef.receiverSlots, CallKind.hasReceiver] using hread
  obtain ⟨sites, hsites, hnodup, hcount, hproduced⟩ :=
    discovered_sites_are_produced redirecting hchoice hunits
  refine ⟨hchoice, hunits, sites, hsites, hnodup, hcount, ?_⟩
  have hlist : redirecting.discover [callers] = .ok [shiftSite] :=
    toOption_eq_some.1 (by decide +kernel)
  obtain rfl := Except.ok.inj (hsites.symm.trans hlist)
  obtain ⟨u, hu, k, m, -, hk, -, -, o, -, ho, old, hold, result, houtcome, hmutant⟩ :=
    hproduced 0 shiftSite rfl
  obtain rfl := List.mem_singleton.1 hu
  obtain ⟨rfl, rfl⟩ : k = 0 ∧ m = caller := by
    obtain ⟨hlt, rfl⟩ := List.getElem?_eq_some_iff.1 hk
    exact ⟨Nat.lt_one_iff.1 hlt, by simp [callers]⟩
  obtain rfl : o = .redirection .sameName := Operator.name_injective ho
  obtain rfl := Option.some.inj hold
  exact ⟨result, houtcome, hmutant⟩

end BytecodeMutation
