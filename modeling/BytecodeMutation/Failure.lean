import BytecodeMutation.Error

/-! Failures of commands: a fault, and what the command was about when it arose. -/

namespace BytecodeMutation

inductive Fault where
  | error (e : Error)
  /-- The pattern for the names of source files is malformed. -/
  | renamingPattern
  /-- A file could not be written. -/
  | unwritable
  | refused (text : String)
  deriving DecidableEq, Inhabited

/-- The wording of a fault, unless what it was about says all. -/
def Fault.message? : Fault → Option String
  | error e => some e.message
  | renamingPattern => none
  | unwritable => none
  | refused text => some text

structure Failure where
  /-- From the outermost on. -/
  contexts : List String
  fault : Fault
  deriving DecidableEq, Inhabited

namespace Failure

def ofError (e : Error) : Failure := ⟨[], .error e⟩

def message (f : Failure) : String :=
  String.intercalate ": " (f.contexts ++ f.fault.message?.toList)

def within (context : String) (f : Failure) : Failure :=
  { f with contexts := context :: f.contexts }

end Failure

end BytecodeMutation
