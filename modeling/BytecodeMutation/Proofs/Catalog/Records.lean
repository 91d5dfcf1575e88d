import BytecodeMutation.Command.Run
import BytecodeMutation.Proofs.Catalog.RoundTrip
import BytecodeMutation.Proofs.ClassUnit.RoundTrip
import BytecodeMutation.Proofs.Distinct

/-! The records of a catalog. The builder compares every record with those that it holds already,
by the set that it keeps beside its list; what it ends up with are the offered records that are no
initializers, without repetitions, in the order in which they were offered first. -/

namespace BytecodeMutation

namespace CatalogBuilder

variable {b : CatalogBuilder} {plain : List SignatureRecord}

/-- A builder that was offered the records of `plain`, and initializers at most beside them: its
list has them without repetitions, and its set has what the list has. -/
structure Holds (b : CatalogBuilder) (plain : List SignatureRecord) : Prop where
  records_eq : b.records = plain.eraseDups
  mem_seen_iff (r : SignatureRecord) : r ∈ b.seen ↔ r ∈ b.records

theorem holds_start (generation : UInt64) : (start generation).Holds [] :=
  ⟨rfl, fun _ => Iff.rfl⟩

theorem Holds.accepts_iff (h : b.Holds plain) {r : SignatureRecord} :
    b.accepts r = true ↔ r.isInitializer = false ∧ r ∉ plain := by
  have hseen : r ∈ b.seen ↔ r ∈ plain := by
    rw [h.mem_seen_iff, h.records_eq, List.mem_eraseDups]
  simp [accepts, hseen]

theorem add_of_accepts {r : SignatureRecord} (h : b.accepts r = true) :
    b.add r = ⟨b.generation, b.records ++ [r], b.seen.insert r⟩ := if_pos h

theorem add_of_not_accepts {r : SignatureRecord} (h : ¬ b.accepts r = true) : b.add r = b :=
  if_neg h

/-- One more record is taken unless it is an initializer or a repetition. -/
theorem Holds.add (h : b.Holds plain) (r : SignatureRecord) :
    (b.add r).Holds (plain ++ [r].filter fun r => !r.isInitializer) := by
  cases hinit : r.isInitializer with
  | true =>
    rw [add_of_not_accepts (by simp [h.accepts_iff, hinit]),
      List.filter_cons_of_neg (by simp [hinit]), List.filter_nil, List.append_nil]
    exact h
  | false =>
    rw [List.filter_cons_of_pos (by simp [hinit]), List.filter_nil]
    by_cases hr : r ∈ plain
    · rw [add_of_not_accepts (by simp [h.accepts_iff, hr])]
      refine ⟨?_, h.mem_seen_iff⟩
      rw [eraseDups_concat, if_pos hr, h.records_eq]
    · rw [add_of_accepts (h.accepts_iff.2 ⟨hinit, hr⟩)]
      refine ⟨?_, fun s => ?_⟩
      · rw [eraseDups_concat, if_neg hr, h.records_eq]
      · rw [List.mem_insert_iff, h.mem_seen_iff, List.mem_append, List.mem_singleton, or_comm]

theorem addAll_cons (r : SignatureRecord) (rs : List SignatureRecord) :
    b.addAll (r :: rs) = (b.add r).addAll rs := rfl

theorem Holds.addAll (h : b.Holds plain) (rs : List SignatureRecord) :
    (b.addAll rs).Holds (plain ++ rs.filter fun r => !r.isInitializer) := by
  induction rs generalizing b plain with
  | nil => rwa [List.filter_nil, List.append_nil]
  | cons r rs ih =>
    rw [addAll_cons, ← List.singleton_append, List.filter_append, ← List.append_assoc]
    exact ih (h.add r)

theorem generation_addAll (b : CatalogBuilder) (rs : List SignatureRecord) :
    (b.addAll rs).generation = b.generation := by
  induction rs generalizing b with
  | nil => rfl
  | cons r rs ih =>
    rw [addAll_cons, ih, CatalogBuilder.add]
    split <;> rfl

/-- What is built after any offers. -/
theorem build_addAll (generation : UInt64) (rs : List SignatureRecord) :
    ((start generation).addAll rs).build =
      ⟨generation, (rs.filter fun r => !r.isInitializer).eraseDups⟩ := by
  have h := ((holds_start generation).addAll rs).records_eq
  rw [build, generation_addAll, h, List.nil_append]
  rfl

theorem addAll_append (rs rs' : List SignatureRecord) :
    b.addAll (rs ++ rs') = (b.addAll rs).addAll rs' := List.foldl_append

/-- Scanning units offers the methods of the admitted ones. -/
theorem foldl_scanAdmitted (policy : MutationPolicy) (units : List ClassUnit)
    (b : CatalogBuilder) : units.foldl (fun b u => b.scanAdmitted policy u) b =
      b.addAll ((units.filter fun u => policy.admitsClass u.name).flatMap (·.signatures)) := by
  induction units generalizing b with
  | nil => rfl
  | cons u units ih =>
    rw [List.foldl_cons, ih, scanAdmitted]
    cases h : policy.admitsClass u.name with
    | true =>
      rw [if_pos rfl, List.filter_cons_of_pos (by exact h), List.flatMap_cons, addAll_append]
      rfl
    | false =>
      rw [if_neg (by simp), List.filter_cons_of_neg (by simp [h])]

end CatalogBuilder

namespace SignatureCatalog

/-- The methods of the admitted classes that are no initializers, each once, in the order of their
first occurrence. -/
def recordsOf (policy : MutationPolicy) (units : List ClassUnit) : List SignatureRecord :=
  let admitted := units.filter fun u => policy.admitsClass u.name
  ((admitted.flatMap fun u => u.methods.map fun m =>
    (⟨u.name, m.name, m.descriptor, m.isStatic⟩ : SignatureRecord)).filter
      fun r => !r.isInitializer).eraseDups

theorem scanUnits_eq (generation : UInt64) (policy : MutationPolicy) (units : List ClassUnit) :
    Command.scanUnits generation policy units = ⟨generation, recordsOf policy units⟩ := by
  rw [Command.scanUnits, CatalogBuilder.foldl_scanAdmitted, CatalogBuilder.build_addAll]
  rfl

theorem mem_recordsOf {policy : MutationPolicy} {units : List ClassUnit} {r : SignatureRecord} :
    r ∈ recordsOf policy units ↔ r.isInitializer = false ∧ ∃ u ∈ units,
      policy.admitsClass u.name = true ∧ ∃ m ∈ u.methods,
        r = ⟨u.name, m.name, m.descriptor, m.isStatic⟩ := by
  simp only [recordsOf, List.mem_eraseDups, List.mem_filter, List.mem_flatMap, List.mem_map,
    Bool.not_eq_true']
  constructor
  · rintro ⟨⟨u, ⟨hu, hadmit⟩, m, hm, rfl⟩, hr⟩
    exact ⟨hr, u, hu, hadmit, m, hm, rfl⟩
  · rintro ⟨hr, u, hu, hadmit, m, hm, rfl⟩
    exact ⟨⟨u, ⟨hu, hadmit⟩, m, hm, rfl⟩, hr⟩

theorem descriptorsRead_scanUnits {generation : UInt64} {policy : MutationPolicy}
    {units : List ClassUnit} (h : ∀ u ∈ units, u.DescriptorsRead) :
    (Command.scanUnits generation policy units).DescriptorsRead := by
  rw [scanUnits_eq]
  intro r hr
  obtain ⟨-, u, hu, -, m, hm, rfl⟩ := mem_recordsOf.1 hr
  exact (h u hu m hm).descriptor

end SignatureCatalog

end BytecodeMutation
