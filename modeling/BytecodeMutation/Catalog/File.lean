import BytecodeMutation.Catalog.Json
import BytecodeMutation.Workspace.Basic

/-! Catalogs in files. A catalog is written beside its file first, with the extension `tmp`, and
then moved over it. -/

namespace BytecodeMutation.SignatureCatalog

variable {m : Type → Type} [Monad m] [Workspace m]

def savePath (path : String) : String := Path.withExtension path "tmp"

/-- Replaces the catalog in a file. -/
def save (c : SignatureCatalog) (path : String) : ExceptT Error m Unit := do
  if !(← Workspace.writeText (savePath path) c.toText) then throw .io
  if !(← Workspace.moveFile (savePath path) path) then throw .io

def load (path : String) : ExceptT Error m SignatureCatalog := do
  match ← Workspace.readText? path with
  | none => throw .io
  | some text =>
    match ofText? text with
    | none => throw .serialization
    | some c => return c

def emptyInstead (path : String) (e : Error) : Log :=
  [⟨.warn, "Could not load signature catalog from " ++ path ++ ", using an empty one: " ++
    e.message⟩]

/-- The catalog in a file, or an empty one if there is none that can be read. -/
def loadOrEmpty (path : String) : m SignatureCatalog := do
  match ← (load path : ExceptT Error m SignatureCatalog).run with
  | .ok c => return c
  | .error e =>
    Workspace.log (emptyInstead path e)
    return empty

end BytecodeMutation.SignatureCatalog
