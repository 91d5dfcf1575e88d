import BytecodeMutation.Proofs.Catalog.Building
import BytecodeMutation.Proofs.Command.Files
import BytecodeMutation.Proofs.Operator.Candidates

/-! Initializers and redirected calls. A call of an initializer stays as it is, and so does every
call inside of one. What a call is redirected to is a record of the catalog, and a builder takes no
initializers; but a catalog that is read from a file has the records that the file has. -/

namespace BytecodeMutation

theorem ValueType.zero_ne_invoke (t : ValueType) (callee : MethodRef) :
    t.zero ≠ .invoke callee := by
  cases t <;> simp [zero, pushDefault?]

/-- Arguments are passed without any call. -/
theorem Redirection.invoke_notMem_prologue (old : List ValueType)
    (new : List (ValueType × UInt16)) (callee : MethodRef) : .invoke callee ∉ prologue old new := by
  intro h
  rcases mem_prologue h with ⟨t, hdrop⟩ | ⟨q, -, hzero | hstore | hload⟩
  · unfold drop at hdrop
    split at hdrop <;> cases hdrop
  · exact q.1.zero_ne_invoke callee hzero.symm
  · cases hstore
  · cases hload

namespace CallMode

variable {mode : CallMode} {context : InstructionContext} {call : MethodRef} {i : Instruction}
  {r : Replacement}

/-- The code of a redirection calls the new method and no other. -/
theorem invoke_mem_redirect {target : MethodRef} {a : LocalAllocator} {code : List Instruction}
    (h : ((mode.redirect call target).emission.emit a).1 = .ok code) (callee : MethodRef) :
    .invoke callee ∈ code ↔ callee = target := by
  cases mode with
  | sameParameters =>
    obtain rfl : [Instruction.invoke target] = code := Except.ok.inj h
    simp
  | sameName =>
    obtain ⟨slots, -, -, rfl, -⟩ := Emission.emit_redirect_ok (Prod.ext h rfl)
    have hprologue := Redirection.invoke_notMem_prologue call.descriptor.params
      (target.descriptor.params.zip slots) callee
    simp [hprologue]

theorem plain_of_candidate? (h : mode.candidate? context (.invoke call) = some r) :
    isInitializerName call.name = false ∧ context.inInitializer = false := by
  simp only [candidate?] at h
  split at h
  · cases h
  · rename_i hplain
    simpa using hplain

/-- Neither a call that is redirected nor the method around it is an initializer. The new call is
one exactly if the first record that fits is one, which is in no catalog that was built, and which
never fits by its name. -/
theorem redirection_reaches_initializer_iff (h : mode.candidate? context i = some r) :
    ∃ call catalog record, i = .invoke call ∧ context.catalog = some catalog ∧
      catalog.firstCompatible? call mode = some record ∧
      isInitializerName call.name = false ∧ context.inInitializer = false ∧
      (∀ a code, (r.emission.emit a).1 = .ok code →
        ∀ callee, .invoke callee ∈ code ↔ callee = target call record) ∧
      (isInitializerName (target call record).name = true ↔
        mode = .sameParameters ∧ record.isInitializer = true) ∧
      (catalog.IsBuilt → isInitializerName (target call record).name = false) := by
  obtain ⟨call, catalog, record, rfl, hcatalog, hrecord, hfits, rfl⟩ := candidate?_eq_some h
  obtain ⟨hcall, hmethod⟩ := plain_of_candidate? h
  have hmem : record ∈ catalog.records := List.mem_of_find?_eq_some hrecord
  refine ⟨call, catalog, record, rfl, hcatalog, hrecord, hcall, hmethod,
    fun a code hcode callee => invoke_mem_redirect hcode callee, ?_,
    fun hbuilt => hbuilt.isInitializer_eq_false hmem⟩
  cases mode with
  | sameParameters => exact (and_iff_right rfl).symm
  | sameName =>
    simp only [SignatureRecord.fits, Bool.and_eq_true, beq_iff_eq] at hfits
    simp [target, hfits.2.1, hcall]

end CallMode

/-! ### A record that was read -/

namespace Sample

/-- A private call without arguments. -/
def wander : MethodRef := ⟨.special, "A", "wander", ⟨[], .void⟩⟩

def wanderer : MethodBody :=
  ⟨"run", ⟨[], .void⟩, false, 1, 1, [.load .reference 0, .invoke wander, .ret]⟩

/-- A class with a constructor and a method that can be called in its place. -/
def walker : ClassUnit :=
  ⟨"A", none, [⟨"<init>", ⟨[], .void⟩, false, 0, 1, [.ret]⟩,
    ⟨"walk", ⟨[], .void⟩, false, 0, 1, [.ret]⟩]⟩

def walks : SignatureCatalog := ((CatalogBuilder.start 1).run [.scan walker]).build

/-- A file with a catalog that holds a constructor. -/
def constructors : Session :=
  .start ⟨[], [(["c"], .file "[1,[[\"A\",\"<init>\",\"()V\",false]]]")]⟩ false

end Sample

open Sample in
theorem redirected_wander_avoids_constructor :
    ∃ r, CallMode.sameParameters.candidate? ⟨wanderer, some walks⟩ (.invoke wander) = some r ∧
      walks.IsBuilt ∧ ∀ a code, (r.emission.emit a).1 = .ok code →
        ∀ callee, .invoke callee ∈ code → isInitializerName callee.name = false := by
  have hbuilt : walks.IsBuilt := ⟨1, [.scan walker], rfl⟩
  have hcandidate : CallMode.sameParameters.candidate? ⟨wanderer, some walks⟩ (.invoke wander) =
      some (CallMode.sameParameters.redirect wander ⟨.special, "A", "walk", ⟨[], .void⟩⟩) := by
    decide +kernel
  obtain ⟨call, catalog, record, hcall, hcatalog, -, -, -, hcode, -, hplain⟩ :=
    CallMode.redirection_reaches_initializer_iff hcandidate
  obtain rfl := Option.some.inj hcatalog
  refine ⟨_, hcandidate, hbuilt, fun a code hemit callee hcallee => ?_⟩
  rw [(hcode a code hemit callee).1 hcallee]
  exact hplain hbuilt

open Sample in
/-- A catalog that was read can turn the call of a method into the call of a constructor. -/
theorem loaded_catalog_redirects_to_constructor :
    ∃ c r, Session.run (SignatureCatalog.load "c" :
        ExceptT Error (StateM Session) SignatureCatalog) constructors = (.ok c, constructors) ∧
      CallMode.sameParameters.candidate? ⟨wanderer, some c⟩ (.invoke wander) = some r ∧
      ∀ a, r.emission.emit a = (.ok [.invoke ⟨.special, "A", "<init>", ⟨[], .void⟩⟩], a) := by
  have htext : constructors.tree.readText? "c" =
      some "[1,[[\"A\",\"<init>\",\"()V\",false]]]" := by decide +kernel
  have hread : SignatureCatalog.ofText? "[1,[[\"A\",\"<init>\",\"()V\",false]]]" =
      some ⟨1, [⟨"A", "<init>", ⟨[], .void⟩, false⟩]⟩ := by decide +kernel
  refine ⟨_, CallMode.sameParameters.redirect wander ⟨.special, "A", "<init>", ⟨[], .void⟩⟩,
    SignatureCatalog.run_load_eq_ok htext hread, ?_, fun _ => rfl⟩
  decide +kernel

end BytecodeMutation
