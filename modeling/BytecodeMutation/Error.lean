/-! The causes for which work on bytecode is refused, their wording, and the log records that go
with them. A `BodyError` arises while one method body is changed and abandons that body; every
other cause is about an input or a request. -/

namespace BytecodeMutation

/-- The two frame sizes of a method body; each is at most 65535 slots. -/
inductive FrameSize where
  | maxLocals
  | maxStack
  deriving DecidableEq, Inhabited

def FrameSize.name : FrameSize → String
  | .maxLocals => "max_locals"
  | .maxStack => "max_stack"

inductive BodyError where
  /-- A value of type void was asked for. -/
  | defaultForVoid (context : String)
  | identifierCollision (identifier : String)
  | stackWidthMismatch (operator expected found : String)
  | stackUnderflow (instruction : String)
  | frameOverflow (size : FrameSize)
  deriving DecidableEq, Inhabited

namespace BodyError

def message : BodyError → String
  | defaultForVoid context => s!"cannot synthesize a default value for void ({context})"
  | identifierCollision identifier => s!"mutation identifier {identifier} registered twice"
  | stackWidthMismatch operator expected found =>
    s!"{operator}: replacement changes stack effect (expected {expected}, found {found})"
  | stackUnderflow instruction => s!"stack underflow while simulating {instruction}"
  | frameOverflow size => size.name ++ " would exceed 65535 slots"

end BodyError

inductive Error where
  | fileNotFound (path : String)
  | io
  | configSyntax
  | serialization
  | pattern
  | invalidDescriptor (text : String)
  | unknownOperator (name : String)
  | methodNotFound (method : String)
  | mutationNotFound (mutation : String)
  /-- The traversal of `method` was abandoned. -/
  | aborted (method : String) (cause : BodyError)
  deriving DecidableEq, Inhabited

namespace Error

def message : Error → String
  | fileNotFound path => s!"file {path} not found"
  | io => "i/o error"
  | configSyntax => "could not parse configuration"
  | serialization => "(de)serialization failed"
  | pattern => "invalid regular expression"
  | invalidDescriptor text => s!"invalid method descriptor \"{text}\""
  | unknownOperator name => s!"unknown mutation operator \"{name}\""
  | methodNotFound method => s!"method {method} not found"
  | mutationNotFound mutation => s!"mutation {mutation} was not applied"
  | aborted _ cause => cause.message

/-- The errors that abandon a method body. -/
def isFatal : Error → Bool
  | aborted _ _ => true
  | _ => false

end Error

/-! ### Log records -/

inductive LogLevel where
  | error
  | warn
  | info
  deriving DecidableEq, Inhabited

def LogLevel.name : LogLevel → String
  | .error => "ERROR"
  | .warn => "WARN"
  | .info => "INFO"

structure LogRecord where
  level : LogLevel
  text : String
  deriving DecidableEq, Inhabited

def LogRecord.render (r : LogRecord) : String := r.level.name ++ " " ++ r.text

abbrev Log := List LogRecord

/-- A second registration of an identifier is logged where it happens. -/
def BodyError.log : BodyError → Log
  | identifierCollision identifier =>
    [⟨.error, s!"Mutation identifier {identifier} registered twice"⟩]
  | _ => []

/-- An abandoned traversal is logged with its cause, after the cause's own records. -/
def Error.log : Error → Log
  | aborted method cause =>
    cause.log ++ [⟨.error, "Aborting traversal of " ++ method ++ ": " ++ cause.message⟩]
  | _ => []

end BytecodeMutation
