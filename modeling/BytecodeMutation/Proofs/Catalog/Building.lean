import BytecodeMutation.Proofs.Catalog.Records
import Mathlib.Data.List.Nodup

/-! Catalogs that are built. Records are offered to a builder one by one or as the methods of a
unit; in whatever way they come, the builder takes them in one order, and takes no initializers. No
record is taken twice, but a method that is offered both as a static method and as one of an object
is taken in both ways. -/

namespace BytecodeMutation

/-- A request to a builder. -/
inductive CatalogRequest where
  | add (r : SignatureRecord)
  | scan (u : ClassUnit)
  | scanAdmitted (policy : MutationPolicy) (u : ClassUnit)

/-- The records that a request offers: its own, or one for every method of its unit. -/
def CatalogRequest.offered : CatalogRequest → List SignatureRecord
  | add r => [r]
  | scan u => u.methods.map fun m => ⟨u.name, m.name, m.descriptor, m.isStatic⟩
  | scanAdmitted policy u =>
    if policy.admitsClass u.name then
      u.methods.map fun m => ⟨u.name, m.name, m.descriptor, m.isStatic⟩
    else []

namespace CatalogBuilder

def after (b : CatalogBuilder) : CatalogRequest → CatalogBuilder
  | .add r => b.add r
  | .scan u => b.scan u
  | .scanAdmitted policy u => b.scanAdmitted policy u

def run (b : CatalogBuilder) (requests : List CatalogRequest) : CatalogBuilder :=
  requests.foldl after b

theorem run_cons (b : CatalogBuilder) (request : CatalogRequest) (requests : List CatalogRequest) :
    b.run (request :: requests) = (b.after request).run requests := rfl

theorem after_eq_addAll (b : CatalogBuilder) (request : CatalogRequest) :
    b.after request = b.addAll request.offered := by
  cases request with
  | add r => rfl
  | scan u => rfl
  | scanAdmitted policy u =>
    rw [after, scanAdmitted, CatalogRequest.offered]
    split <;> rfl

theorem run_eq_addAll (b : CatalogBuilder) (requests : List CatalogRequest) :
    b.run requests = b.addAll (requests.flatMap CatalogRequest.offered) := by
  induction requests generalizing b with
  | nil => rfl
  | cons request requests ih =>
    rw [run_cons, ih, after_eq_addAll, List.flatMap_cons, addAll_append]

theorem holds_run (generation : UInt64) (requests : List CatalogRequest) :
    ((start generation).run requests).Holds
      ((requests.flatMap CatalogRequest.offered).filter fun r => !r.isInitializer) := by
  rw [run_eq_addAll]
  exact (holds_start generation).addAll _

/-- A builder holds what it was offered, without initializers and repetitions. -/
theorem build_run (generation : UInt64) (requests : List CatalogRequest) :
    ((start generation).run requests).build = ⟨generation,
      ((requests.flatMap CatalogRequest.offered).filter fun r => !r.isInitializer).eraseDups⟩ := by
  rw [run_eq_addAll, build_addAll]

end CatalogBuilder

namespace SignatureCatalog

/-- Whether a catalog comes from a builder. -/
def IsBuilt (c : SignatureCatalog) : Prop :=
  ∃ generation requests, c = ((CatalogBuilder.start generation).run requests).build

theorem IsBuilt.isInitializer_eq_false {c : SignatureCatalog} (h : c.IsBuilt) {r : SignatureRecord}
    (hr : r ∈ c.records) : r.isInitializer = false := by
  obtain ⟨generation, requests, rfl⟩ := h
  rw [CatalogBuilder.build_run] at hr
  have hkept := (List.mem_filter.1 (List.mem_eraseDups.1 hr)).2
  simpa using hkept

end SignatureCatalog

/-! ### Keys -/

namespace SignatureRecord

/-- What tells the methods of all classes apart. -/
def key (r : SignatureRecord) : String × String × MethodDescriptor :=
  (r.owner, r.name, r.descriptor)

variable {r s : SignatureRecord}

theorem eq_of_key_eq (h : r.key = s.key) (hstatic : r.isStatic = s.isStatic) : r = s := by
  cases r
  cases s
  simp only [key, Prod.mk.injEq] at h hstatic
  simp only [mk.injEq]
  exact ⟨h.1, h.2.1, h.2.2, hstatic⟩

theorem isInitializer_eq_of_key_eq (h : r.key = s.key) : r.isInitializer = s.isInitializer := by
  simp only [key, Prod.mk.injEq] at h
  rw [isInitializer, isInitializer, h.2.1]

end SignatureRecord

namespace CatalogBuilder

variable (generation : UInt64) (requests : List CatalogRequest)

theorem mem_records_run {r : SignatureRecord} :
    r ∈ ((start generation).run requests).build.records ↔
      r ∈ requests.flatMap CatalogRequest.offered ∧ r.isInitializer = false := by
  rw [build_run]
  simp

theorem nodup_records_run : ((start generation).run requests).build.records.Nodup := by
  rw [build_run]
  exact nodup_eraseDups _

/-- Of two records of a built catalog with one owner, name and descriptor, one is static and the
other is not. So the keys of its records are distinct exactly if no method was offered in both
ways. -/
theorem keys_distinct_iff_static_agrees :
    (((start generation).run requests).build.records.Pairwise fun r s =>
      r.key = s.key → r.isStatic ≠ s.isStatic) ∧
    ((((start generation).run requests).build.records.map SignatureRecord.key).Nodup ↔
      ∀ r ∈ requests.flatMap CatalogRequest.offered,
        ∀ s ∈ requests.flatMap CatalogRequest.offered,
          r.isInitializer = false → r.key = s.key → r.isStatic = s.isStatic) := by
  have hnodup := nodup_records_run generation requests
  refine ⟨hnodup.imp fun hne hkey hstatic =>
    hne (SignatureRecord.eq_of_key_eq hkey hstatic), ?_⟩
  rw [List.nodup_map_iff_inj_on hnodup]
  simp only [mem_records_run, and_imp]
  constructor
  · intro h r hr s hs hplain hkey
    have hplain' : s.isInitializer = false :=
      SignatureRecord.isInitializer_eq_of_key_eq hkey ▸ hplain
    rw [h r hr hplain s hs hplain' hkey]
  · intro h r hr hplain s hs _ hkey
    exact SignatureRecord.eq_of_key_eq hkey (h r hr s hs hplain hkey)

theorem scanned_method_recorded_once :
    (((start 3).run [.scan ⟨"A", none, [⟨"f", ⟨[], .void⟩, true, 0, 0, [.ret]⟩]⟩,
      .add ⟨"A", "g", ⟨[], .void⟩, false⟩, .add ⟨"A", "f", ⟨[], .void⟩, true⟩]).build.records.map
        SignatureRecord.key).Nodup :=
  (keys_distinct_iff_static_agrees 3 _).2.2 (by decide)

/-- A method that is added as a static one and then as one of an object is in the catalog twice. -/
theorem method_added_in_both_ways : ¬ ∀ generation requests,
    (((start generation).run requests).build.records.map SignatureRecord.key).Nodup := by
  intro h
  have htwice := h 0 [.add ⟨"A", "f", ⟨[], .void⟩, true⟩, .add ⟨"A", "f", ⟨[], .void⟩, false⟩]
  exact absurd htwice (by decide)

end CatalogBuilder

end BytecodeMutation
