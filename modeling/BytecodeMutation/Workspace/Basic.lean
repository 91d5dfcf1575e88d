import BytecodeMutation.Error
import BytecodeMutation.FileTree.Basic

/-! What commands may do outside of themselves: use files, print, and write log records. A session
is the state of such a workspace, so that every command is a function on sessions. -/

namespace BytecodeMutation

class Workspace (m : Type → Type) where
  isFile : String → m Bool
  /-- Whether there is a file or a directory. -/
  isPresent : String → m Bool
  /-- The text of a file, unless it cannot be read. -/
  readText? : String → m (Option String)
  /-- Writes a file, and tells whether that succeeded. -/
  writeText : String → String → m Bool
  /-- Moves a file over another, and tells whether that succeeded. -/
  moveFile : String → String → m Bool
  print : String → m Unit
  log : Log → m Unit
  /-- Whether what is printed may be coloured. -/
  isColoured : m Bool

namespace Workspace

variable {m : Type → Type} {ε : Type} [Monad m] [Workspace m]

/-- A command that can fail uses the workspace in the same way. -/
instance : Workspace (ExceptT ε m) where
  isFile path := ExceptT.lift (isFile path)
  isPresent path := ExceptT.lift (isPresent path)
  readText? path := ExceptT.lift (readText? path)
  writeText path text := ExceptT.lift (writeText path text)
  moveFile source target := ExceptT.lift (moveFile source target)
  print text := ExceptT.lift (print text)
  log records := ExceptT.lift (log records)
  isColoured := ExceptT.lift isColoured

end Workspace

structure Session where
  tree : FileTree
  printed : String
  log : Log
  coloured : Bool
  deriving Inhabited

namespace Session

def start (tree : FileTree) (coloured : Bool) : Session := ⟨tree, "", [], coloured⟩

/-- The session after a change to the files, if it succeeds. -/
def change (s : Session) (tree? : Option FileTree) : Bool × Session :=
  match tree? with
  | some tree => (true, { s with tree })
  | none => (false, s)

instance : Workspace (StateM Session) where
  isFile path := fun s => (s.tree.isFile path, s)
  isPresent path := fun s => (s.tree.isPresent path, s)
  readText? path := fun s => (s.tree.readText? path, s)
  writeText path text := fun s => s.change (s.tree.writeText? path text)
  moveFile source target := fun s => s.change (s.tree.moveFile? source target)
  print text := fun s => ((), { s with printed := s.printed ++ text })
  log records := fun s => ((), { s with log := s.log ++ records })
  isColoured := fun s => (s.coloured, s)

end Session

end BytecodeMutation
