import BytecodeMutation.Proofs.Catalog.Initializers

/-! Calls and the records that can replace them. Outside of initializers a call is redirected as
soon as the catalog holds a method that differs from the called one in the name alone or in the
parameters alone, and it is redirected to the first of these methods. -/

namespace BytecodeMutation

theorem CallKind.hasReceiver_eq_false_iff {kind : CallKind} :
    kind.hasReceiver = false ↔ kind = .static := by
  cases kind <;> simp [hasReceiver]

theorem isInitializerName_eq_false_iff {name : String} :
    isInitializerName name = false ↔ name ∉ ["<init>", "<clinit>"] := by
  simp [isInitializerName, constructorName, staticInitializerName]

/-! ### Replacements of a method -/

/-- A recorded method that can be called in the place of another one: a method of the same class
with the same result, static for static calls and for no others, that has either the parameters or
the name in common with it. -/
structure SignatureRecord.Replaces (r : SignatureRecord) (call : MethodRef) (mode : CallMode) :
    Prop where
  owner_eq : r.owner = call.owner
  ret_eq : r.descriptor.ret = call.descriptor.ret
  isStatic_iff : r.isStatic = true ↔ call.kind = .static
  changes : match mode with
    | .sameParameters => r.descriptor.params = call.descriptor.params ∧ r.name ≠ call.name
    | .sameName => r.name = call.name ∧ r.descriptor.params ≠ call.descriptor.params

namespace SignatureRecord

variable {r : SignatureRecord} {call : MethodRef} {mode : CallMode}

theorem isStatic_bne_hasReceiver :
    (r.isStatic != call.kind.hasReceiver) = true ↔ (r.isStatic = true ↔ call.kind = .static) := by
  rw [← CallKind.hasReceiver_eq_false_iff]
  cases r.isStatic <;> cases call.kind.hasReceiver <;> decide

theorem fits_iff_replaces : r.fits call mode = true ↔ r.Replaces call mode := by
  simp only [fits, Bool.and_eq_true, isStatic_bne_hasReceiver, beq_iff_eq]
  constructor
  · rintro ⟨⟨⟨howner, hstatic⟩, hret⟩, hchanges⟩
    refine ⟨howner, hret, hstatic, ?_⟩
    cases mode <;> simpa using hchanges
  · rintro ⟨howner, hret, hstatic, hchanges⟩
    refine ⟨⟨⟨howner, hstatic⟩, hret⟩, ?_⟩
    cases mode <;> simpa using hchanges

instance : Decidable (r.Replaces call mode) := decidable_of_iff _ fits_iff_replaces

/-- No method replaces itself. -/
theorem Replaces.key_ne (h : r.Replaces call mode) :
    r.key ≠ (call.owner, call.name, call.descriptor) := by
  intro hkey
  simp only [key, Prod.mk.injEq] at hkey
  have hchanges := h.changes
  cases mode with
  | sameParameters => exact hchanges.2 hkey.2.1
  | sameName => exact hchanges.2 (congrArg MethodDescriptor.params hkey.2.2)

theorem Replaces.target_ne (h : r.Replaces call mode) : CallMode.target call r ≠ call := by
  intro htarget
  refine h.key_ne ?_
  rw [← htarget]
  rfl

/-- With the same parameters, only the name of the called method changes. -/
theorem Replaces.target_eq (h : r.Replaces call .sameParameters) :
    CallMode.target call r = { call with name := r.name } := by
  rw [CallMode.target, h.owner_eq, MethodDescriptor.eq_of_parts h.changes.1 h.ret_eq]

end SignatureRecord

namespace SignatureCatalog

variable {c : SignatureCatalog} {call : MethodRef} {mode : CallMode}

theorem compatible_eq_filter :
    c.compatible call mode = c.records.filter fun r => r.Replaces call mode := by
  refine List.filter_congr fun r _ => ?_
  rw [Bool.eq_iff_iff, SignatureRecord.fits_iff_replaces, decide_eq_true_iff]

theorem isSome_firstCompatible?_iff :
    (c.firstCompatible? call mode).isSome ↔ ∃ r ∈ c.records, r.Replaces call mode := by
  rw [firstCompatible?, List.find?_isSome]
  simp only [SignatureRecord.fits_iff_replaces]

/-- The first record that fits, with the ones before it, none of which does. -/
theorem firstCompatible?_eq_some_iff {r : SignatureRecord} :
    c.firstCompatible? call mode = some r ↔ r.Replaces call mode ∧ ∃ before after,
      c.records = before ++ r :: after ∧ ∀ s ∈ before, ¬ s.Replaces call mode := by
  rw [firstCompatible?, List.find?_eq_some_iff_append]
  simp only [SignatureRecord.fits_iff_replaces, Bool.not_eq_true', ← Bool.not_eq_true]

end SignatureCatalog

/-! ### Redirected calls -/

namespace CallMode

variable {mode : CallMode} {context : InstructionContext} {i : Instruction}

theorem isSome_candidate?_iff : (mode.candidate? context i).isSome ↔ ∃ call catalog,
    i = .invoke call ∧ context.catalog = some catalog ∧ isInitializerName call.name = false ∧
      context.inInitializer = false ∧ ∃ r ∈ catalog.records, r.Replaces call mode := by
  constructor
  · intro h
    obtain ⟨r, hr⟩ := Option.isSome_iff_exists.1 h
    obtain ⟨call, catalog, record, rfl, hcatalog, hrecord, hfits, -⟩ := candidate?_eq_some hr
    obtain ⟨hcall, hmethod⟩ := plain_of_candidate? hr
    exact ⟨call, catalog, rfl, hcatalog, hcall, hmethod, record, List.mem_of_find?_eq_some hrecord,
      SignatureRecord.fits_iff_replaces.1 hfits⟩
  · rintro ⟨call, catalog, rfl, hcatalog, hcall, hmethod, hrecord⟩
    rw [candidate?, hcall, hmethod, hcatalog]
    simpa using SignatureCatalog.isSome_firstCompatible?_iff.2 hrecord

/-- The code of a redirection ends in the call of the new method. -/
theorem getLast?_redirect {call target : MethodRef} {a : LocalAllocator} {code : List Instruction}
    (h : ((mode.redirect call target).emission.emit a).1 = .ok code) :
    code.getLast? = some (.invoke target) := by
  cases mode with
  | sameParameters =>
    obtain rfl : [Instruction.invoke target] = code := Except.ok.inj h
    rfl
  | sameName =>
    obtain ⟨slots, -, -, rfl, -⟩ := Emission.emit_redirect_ok (Prod.ext h rfl)
    exact List.getLast?_concat

/-- A call is redirected exactly if neither it nor the method around it is an initializer and some
record of the catalog replaces the called method. The new code ends in a call, of the same kind, of
the first such record; with the same parameters it is that call alone. The records that fit a call
are those that replace its method, in their order, and the method itself is none of them. -/
theorem call_redirected_to_first_replacement (mode : CallMode) (context : InstructionContext)
    (i : Instruction) :
    (((Operator.redirection mode).candidate? context i).isSome ↔ ∃ call catalog,
      i = .invoke call ∧ context.catalog = some catalog ∧ call.name ∉ ["<init>", "<clinit>"] ∧
        context.method.name ∉ ["<init>", "<clinit>"] ∧
        ∃ r ∈ catalog.records, r.Replaces call mode) ∧
    (∀ offer, (Operator.redirection mode).candidate? context i = some offer →
      ∃ call catalog before r after, i = .invoke call ∧ context.catalog = some catalog ∧
        catalog.records = before ++ r :: after ∧ r.Replaces call mode ∧
        (∀ s ∈ before, ¬ s.Replaces call mode) ∧
        ∀ a code, (offer.emission.emit a).1 = .ok code →
          code.getLast? = some (.invoke ⟨call.kind, r.owner, r.name, r.descriptor⟩) ∧
          (mode = .sameParameters → code = [.invoke { call with name := r.name }])) ∧
    ∀ (catalog : SignatureCatalog) (call : MethodRef),
      catalog.compatible call mode = (catalog.records.filter fun r => r.Replaces call mode) ∧
        ∀ r ∈ catalog.compatible call mode, r.key ≠ (call.owner, call.name, call.descriptor) := by
  refine ⟨?_, fun offer hoffer => ?_, fun catalog call => ⟨SignatureCatalog.compatible_eq_filter,
    fun r hr => ?_⟩⟩
  · simp only [← isInitializerName_eq_false_iff]
    exact isSome_candidate?_iff
  · obtain ⟨call, catalog, r, rfl, hcatalog, hr, -, rfl⟩ := candidate?_eq_some hoffer
    obtain ⟨hreplaces, before, after, hrecords, hbefore⟩ :=
      SignatureCatalog.firstCompatible?_eq_some_iff.1 hr
    refine ⟨call, catalog, before, r, after, rfl, hcatalog, hrecords, hreplaces, hbefore,
      fun a code hcode => ⟨getLast?_redirect hcode, ?_⟩⟩
    rintro rfl
    rw [← hreplaces.target_eq]
    exact (Except.ok.inj hcode).symm
  · rw [SignatureCatalog.compatible_eq_filter] at hr
    exact (of_decide_eq_true (List.mem_filter.1 hr).2).key_ne

end CallMode

/-! ### Near matches -/

/-- The called method, a static one and one of another class, before the two that can replace it. -/
def Sample.strolls : SignatureCatalog :=
  ⟨1, [⟨"A", "wander", ⟨[], .void⟩, false⟩, ⟨"A", "amble", ⟨[], .void⟩, true⟩,
    ⟨"B", "walk", ⟨[], .void⟩, false⟩, ⟨"A", "walk", ⟨[], .void⟩, false⟩,
    ⟨"A", "roam", ⟨[], .void⟩, false⟩]⟩

open Sample in
theorem wander_redirected_to_walk :
    ∃ offer, (Operator.redirection .sameParameters).candidate? ⟨wanderer, some strolls⟩
        (.invoke wander) = some offer ∧
      (∀ a code, (offer.emission.emit a).1 = .ok code →
        code = [.invoke ⟨.special, "A", "walk", ⟨[], .void⟩⟩]) ∧
      strolls.compatible wander .sameParameters =
        [⟨"A", "walk", ⟨[], .void⟩, false⟩, ⟨"A", "roam", ⟨[], .void⟩, false⟩] := by
  obtain ⟨hoffered, hcode, hlisted⟩ := CallMode.call_redirected_to_first_replacement
    .sameParameters ⟨wanderer, some strolls⟩ (.invoke wander)
  obtain ⟨offer, hoffer⟩ := Option.isSome_iff_exists.1 (hoffered.2 ⟨wander, strolls, rfl, rfl,
    by decide, by decide, ⟨"A", "walk", ⟨[], .void⟩, false⟩, by decide, by decide⟩)
  obtain ⟨call, catalog, before, r, after, hcall, hcatalog, hrecords, hr, hbefore, hcode⟩ :=
    hcode offer hoffer
  obtain rfl := Instruction.invoke.inj hcall
  obtain rfl := Option.some.inj hcatalog
  have hfirst := SignatureCatalog.firstCompatible?_eq_some_iff.2 ⟨hr, before, after, hrecords,
    hbefore⟩
  have hwalk : strolls.firstCompatible? wander .sameParameters =
      some ⟨"A", "walk", ⟨[], .void⟩, false⟩ := by decide +kernel
  obtain rfl := Option.some.inj (hfirst.symm.trans hwalk)
  refine ⟨offer, hoffer, fun a code hemit => (hcode a code hemit).2 rfl, ?_⟩
  rw [(hlisted strolls wander).1]
  decide

end BytecodeMutation
