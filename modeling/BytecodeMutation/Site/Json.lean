import BytecodeMutation.Json.Basic
import BytecodeMutation.Instruction.Json
import BytecodeMutation.Site.Basic

/-! The JSON form of identifiers and sites. -/

namespace BytecodeMutation

namespace Json

def methodKey? (j : Json) : Option MethodKey := do
  match ← j.fields? ["owner", "name", "descriptor"] with
  | [some owner, some name, some descriptor] =>
    some ⟨← owner.text?, ← name.text?, ← descriptor.text?⟩
  | _ => none

def mutationIdentifier? (j : Json) : Option MutationIdentifier := do
  match ← j.fields? ["method", "operator", "instruction_index"] with
  | [some method, some operator, some index] =>
    some ⟨← method.methodKey?, ← operator.text?, ← index.natBelow? 0x10000000000000000⟩
  | _ => none

def category? : Json → Option Category := tag? Category.all Category.name

end Json

def MethodKey.toJson (k : MethodKey) : Json :=
  .record [("owner", Json.text k.owner), ("name", Json.text k.name),
    ("descriptor", Json.text k.descriptor)]

def MutationIdentifier.toJson (id : MutationIdentifier) : Json :=
  .record [("method", id.method.toJson), ("operator", Json.text id.operator),
    ("instruction_index", .nat id.index)]

def SourceLocation.toJson (l : SourceLocation) : Json :=
  .record [("file", .orNull (l.file.map Json.text)),
    ("line", .orNull (l.line.map fun n => .nat n.toNat))]

def MutationSite.toJson (s : MutationSite) : Json :=
  .record [("ordinal", .nat s.ordinal), ("id", s.id.toJson),
    ("category", Json.text s.category.name), ("description", Json.text s.description),
    ("location", s.location.toJson)]

end BytecodeMutation
