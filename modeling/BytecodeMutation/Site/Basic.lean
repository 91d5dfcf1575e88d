import BytecodeMutation.ClassUnit.Basic
import BytecodeMutation.Decimal.Digits
import BytecodeMutation.Digest.Md5

/-! Mutation sites and the identifiers that name them. An identifier says which operator applies to
which instruction of which method, and stays the same over all traversals of the method. -/

namespace BytecodeMutation

/-- The kind of change that an operator makes. -/
inductive Category where
  | operatorSubstitution
  | operandElimination
  | constantPerturbation
  | unaryStep
  | negationInsertion
  | callSubstitution
  deriving DecidableEq, Inhabited

namespace Category

def all : List Category :=
  [operatorSubstitution, operandElimination, constantPerturbation, unaryStep, negationInsertion,
    callSubstitution]

/-- The short name in reports. -/
def tag : Category → String
  | operatorSubstitution => "SUBST"
  | operandElimination => "OPERAND"
  | constantPerturbation => "CONST"
  | unaryStep => "UNARY"
  | negationInsertion => "NEGATE"
  | callSubstitution => "CALL"

def name : Category → String
  | operatorSubstitution => "OperatorSubstitution"
  | operandElimination => "OperandElimination"
  | constantPerturbation => "ConstantPerturbation"
  | unaryStep => "UnaryStep"
  | negationInsertion => "NegationInsertion"
  | callSubstitution => "CallSubstitution"

end Category

/-- A method among a set of class units; the descriptor is in its written form. -/
structure MethodKey where
  owner : String
  name : String
  descriptor : String
  deriving DecidableEq, Inhabited, Ord

namespace MethodKey

def of (owner : String) (m : MethodBody) : MethodKey := ⟨owner, m.name, m.descriptor.text⟩

def text (k : MethodKey) : String := k.owner ++ "." ++ k.name ++ k.descriptor

end MethodKey

structure MutationIdentifier where
  method : MethodKey
  operator : String
  /-- The position of the instruction in the unchanged method. -/
  index : Nat
  deriving DecidableEq, Inhabited, Ord

namespace MutationIdentifier

def text (id : MutationIdentifier) : String :=
  id.method.text ++ "#" ++ id.operator ++ "@" ++ Decimal.natText id.index

/-- A short stable handle: the digest of the text. -/
def fingerprint (id : MutationIdentifier) : String := Md5.hex id.text

end MutationIdentifier

structure SourceLocation where
  file : Option String
  line : Option UInt32
  deriving DecidableEq, Inhabited

structure MutationSite where
  /-- How many sites of the method were registered before this one. -/
  ordinal : Nat
  id : MutationIdentifier
  category : Category
  description : String
  location : SourceLocation
  deriving DecidableEq, Inhabited

end BytecodeMutation
