import BytecodeMutation.ClassUnit.Json
import BytecodeMutation.Workspace.Basic

/-! Class units in files. -/

namespace BytecodeMutation.ClassUnit

variable {m : Type → Type} [Monad m] [Workspace m]

def ofFile (path : String) : ExceptT Error m ClassUnit := do
  if !(← Workspace.isFile path) then throw (.fileNotFound path)
  match ← Workspace.readText? path with
  | none => throw .io
  | some text =>
    match ofText? text with
    | none => throw .serialization
    | some u => return u

def save (u : ClassUnit) (path : String) : ExceptT Error m Unit := do
  if !(← Workspace.writeText path u.toText) then throw .io

end BytecodeMutation.ClassUnit
