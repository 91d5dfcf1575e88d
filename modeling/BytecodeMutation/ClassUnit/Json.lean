import BytecodeMutation.ClassUnit.Basic
import BytecodeMutation.Instruction.Json
import BytecodeMutation.Json.Reader
import BytecodeMutation.Json.Writer

/-! The JSON form of class units. The source file and the static mark may be absent. -/

namespace BytecodeMutation

open Json (text)

namespace Json

def methodBody? (j : Json) : Option MethodBody := do
  let names := ["name", "descriptor", "is_static", "max_stack", "max_locals", "instructions"]
  match ← j.fields? names with
  | [some name, some descriptor, isStatic, some maxStack, some maxLocals, some code] =>
    let isStatic ← match isStatic with
      | none => some false
      | some b => b.bool?
    some {
      name := ← name.text?
      descriptor := ← descriptor.descriptor?
      isStatic
      maxStack := ← maxStack.uint16?
      maxLocals := ← maxLocals.uint16?
      instructions := ← code.listOf? instruction? }
  | _ => none

/-- An optional text: absent, null or a string. -/
def optionalText? : Option Json → Option (Option String)
  | none | some null => some none
  | some j => j.text?.map some

def classUnit? (j : Json) : Option ClassUnit := do
  match ← j.fields? ["name", "source_file", "methods"] with
  | [some name, sourceFile, some methods] =>
    some ⟨← name.text?, ← optionalText? sourceFile, ← methods.listOf? methodBody?⟩
  | _ => none

end Json

def MethodBody.toJson (w : FloatWriter) (m : MethodBody) : Json :=
  .record [("name", text m.name), ("descriptor", text m.descriptor.text),
    ("is_static", .bool m.isStatic), ("max_stack", .nat m.maxStack.toNat),
    ("max_locals", .nat m.maxLocals.toNat),
    ("instructions", .array (m.instructions.map (·.toJson w)))]

namespace ClassUnit

def toJson (w : FloatWriter) (u : ClassUnit) : Json :=
  .record [("name", text u.name), ("source_file", .orNull (u.sourceFile.map text)),
    ("methods", .array (u.methods.map (·.toJson w)))]

/-- Reads a unit from JSON text. -/
def ofText? (s : String) : Option ClassUnit := (Json.read? s).bind Json.classUnit?

/-- The JSON text of a unit, over several lines. -/
def toText (u : ClassUnit) : String := (u.toJson .number).pretty

end ClassUnit

end BytecodeMutation
