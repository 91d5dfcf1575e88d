import BytecodeMutation.Catalog.Basic
import BytecodeMutation.Instruction.Json
import BytecodeMutation.Json.Reader
import BytecodeMutation.Json.Writer

/-! The JSON form of signature catalogs; every field must be present. -/

namespace BytecodeMutation

open Json (text)

namespace Json

def signatureRecord? (j : Json) : Option SignatureRecord := do
  match ← j.fields? ["owner", "name", "descriptor", "is_static"] with
  | [some owner, some name, some descriptor, some isStatic] =>
    some ⟨← owner.text?, ← name.text?, ← descriptor.descriptor?, ← isStatic.bool?⟩
  | _ => none

def signatureCatalog? (j : Json) : Option SignatureCatalog := do
  match ← j.fields? ["generation", "records"] with
  | [some generation, some records] =>
    some ⟨← generation.uint64?, ← records.listOf? signatureRecord?⟩
  | _ => none

end Json

def SignatureRecord.toJson (r : SignatureRecord) : Json :=
  .record [("owner", text r.owner), ("name", text r.name),
    ("descriptor", text r.descriptor.text), ("is_static", .bool r.isStatic)]

namespace SignatureCatalog

def toJson (c : SignatureCatalog) : Json :=
  .record [("generation", .nat c.generation.toNat),
    ("records", .array (c.records.map SignatureRecord.toJson))]

/-- Reads a catalog from JSON text. -/
def ofText? (s : String) : Option SignatureCatalog :=
  (Json.read? s).bind Json.signatureCatalog?

/-- The JSON text of a catalog, over several lines. -/
def toText (c : SignatureCatalog) : String := c.toJson.pretty

end SignatureCatalog

end BytecodeMutation
