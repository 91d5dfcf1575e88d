import BytecodeMutation.Config.Basic
import BytecodeMutation.Workspace.Basic

/-! Configurations in files. -/

namespace BytecodeMutation.Config

variable {m : Type → Type} [Monad m] [Workspace m]

/-- Reads a configuration file; its directory is where the path of the catalog starts. -/
def ofFile (path : String) : ExceptT Error m Config := do
  if !(← Workspace.isFile path) then throw (.fileNotFound path)
  match ← Workspace.readText? path with
  | none => throw .io
  | some text => ExceptT.mk (pure (ofText (Path.parent path) text))

end BytecodeMutation.Config
