import BytecodeMutation.Catalog.Json
import BytecodeMutation.Proofs.Instruction.RoundTrip

/-! Catalogs are read back from their JSON text, as long as the descriptor of every record is the
descriptor of some text. A catalog that was read meets this condition. -/

namespace BytecodeMutation

open Json (Encodes text)

theorem SignatureRecord.encodes {r : SignatureRecord} (h : r.descriptor.IsRead) :
    Encodes Json.signatureRecord? r r.toJson := by
  constructor
  · refine Json.isWritten_record ?_
    simp only [List.forall_mem_cons]
    exact ⟨.string _, .string _, .string _, .bool _, nofun⟩
  · have hfields : r.toJson.fields? ["owner", "name", "descriptor", "is_static"] =
        some [some (text r.owner), some (text r.name), some (text r.descriptor.text),
          some (.bool r.isStatic)] := Json.fields?_record rfl (by decide)
    simp only [Json.signatureRecord?, hfields, Option.bind_eq_bind, Option.bind_some,
      h.encodes.read, (Json.encodes_text _).read, (Json.encodes_bool _).read]

theorem SignatureRecord.isRead_of_json {j : Json} {r : SignatureRecord}
    (h : j.signatureRecord? = some r) : r.descriptor.IsRead := by
  simp only [Json.signatureRecord?, Option.bind_eq_bind, Option.bind_eq_some_iff] at h
  obtain ⟨fields, -, h⟩ := h
  split at h
  · simp only [Option.bind_eq_some_iff, Option.some.injEq] at h
    obtain ⟨_, -, _, -, d, hd, _, -, rfl⟩ := h
    exact Json.isRead_of_descriptor? hd
  · cases h

namespace SignatureCatalog

/-- Whether the descriptors of all records of a catalog can be read. -/
def DescriptorsRead (c : SignatureCatalog) : Prop := ∀ r ∈ c.records, r.descriptor.IsRead

theorem encodes {c : SignatureCatalog} (h : c.DescriptorsRead) :
    Encodes Json.signatureCatalog? c c.toJson := by
  have hrecords := Json.encodes_list fun r hr => SignatureRecord.encodes (h r hr)
  constructor
  · refine Json.isWritten_record ?_
    simp only [List.forall_mem_cons]
    exact ⟨Json.isWritten_int _, hrecords.written, nofun⟩
  · have hfields : c.toJson.fields? ["generation", "records"] =
        some [some (.nat c.generation.toNat),
          some (.array (c.records.map SignatureRecord.toJson))] :=
      Json.fields?_record rfl (by decide)
    simp only [Json.signatureCatalog?, hfields, Option.bind_eq_bind, Option.bind_some,
      hrecords.read, (Json.encodes_uint64 _).read]

/-- A catalog is read back from its text. -/
theorem ofText?_toText {c : SignatureCatalog} (h : c.DescriptorsRead) :
    ofText? c.toText = some c :=
  (encodes h).read?_pretty

theorem descriptorsRead_of_ofText? {s : String} {c : SignatureCatalog} (h : ofText? s = some c) :
    c.DescriptorsRead := by
  obtain ⟨j, -, h⟩ := Option.bind_eq_some_iff.1 h
  simp only [Json.signatureCatalog?, Option.bind_eq_bind, Option.bind_eq_some_iff] at h
  obtain ⟨fields, -, h⟩ := h
  split at h
  · simp only [Option.bind_eq_some_iff, Option.some.injEq] at h
    obtain ⟨_, -, records, hrecords, rfl⟩ := h
    intro r hr
    obtain ⟨k, hk⟩ := Json.exists_item_of_listOf? hrecords r hr
    exact SignatureRecord.isRead_of_json hk
  · cases h

end SignatureCatalog

end BytecodeMutation
