import BytecodeMutation.Catalog.Basic
import BytecodeMutation.Operator.Literal
import BytecodeMutation.Operator.Substitution
import BytecodeMutation.Operator.UnaryStep
import BytecodeMutation.Site.Basic

/-! The mutation operators. An operator looks at one instruction in the context of its method and
offers at most one replacement for it. -/

namespace BytecodeMutation

inductive Operator where
  | substitution (s : Substitution)
  | elimination (removed : RemovedOperand)
  | perturbation (p : Perturbation)
  | unaryStep (s : UnaryStep)
  | redirection (mode : CallMode)
  deriving DecidableEq, Inhabited

/-- What an operator sees besides the instruction: the method around it and the catalog of
signatures, if there is one. -/
structure InstructionContext where
  method : MethodBody
  catalog : Option SignatureCatalog

def InstructionContext.inInitializer (context : InstructionContext) : Bool :=
  context.method.isConstructor || context.method.isStaticInitializer

/-! ### Eliminations and redirections -/

def RemovedOperand.ordinal : RemovedOperand → String
  | first => "first"
  | last => "second"

/-- An arithmetic operation loses one of its operands and keeps the other as its result. -/
def RemovedOperand.candidate? (removed : RemovedOperand) : Instruction → Option Replacement
  | .arith op t =>
    some ⟨"Removed " ++ removed.ordinal ++ " operand of " ++ (Instruction.arith op t).mnemonic ++
      " (" ++ t.name ++ ")", .dropOperand removed t⟩
  | _ => none

namespace CallMode

def operatorName : CallMode → String
  | sameParameters => "call_replace_name"
  | sameName => "call_replace_parameters"

/-- The recorded method in the place of the one called, by the same kind of call. -/
def target (call : MethodRef) (r : SignatureRecord) : MethodRef :=
  ⟨call.kind, r.owner, r.name, r.descriptor⟩

/-- With equal parameters the call is exchanged as it stands; otherwise its arguments are turned
into those of the new method. -/
def redirect (mode : CallMode) (call target : MethodRef) : Replacement :=
  match mode with
  | sameParameters =>
    .single (.invoke target)
      ("Replaced call to " ++ call.owner ++ "." ++ call.name ++ " with " ++ target.name)
  | sameName =>
    ⟨"Replaced call to " ++ call.text ++ " with " ++ target.name ++ target.descriptor.text,
      .redirect call target⟩

/-- A call is redirected to the first method of the catalog that fits it; calls of initializers and
calls inside of them stay. -/
def candidate? (mode : CallMode) (context : InstructionContext) : Instruction → Option Replacement
  | .invoke call =>
    if isInitializerName call.name || context.inInitializer then none
    else
      match context.catalog with
      | none => none
      | some catalog =>
        (catalog.firstCompatible? call mode).map fun r => mode.redirect call (target call r)
  | _ => none

end CallMode

/-! ### All operators -/

namespace Operator

/-- Every operator, in the order of traversal. -/
def all : List Operator :=
  Substitution.all.map substitution ++
    [elimination .first, elimination .last] ++
    Perturbation.all.map perturbation ++
    UnaryStep.all.map unaryStep ++
    [redirection .sameParameters, redirection .sameName]

def name : Operator → String
  | substitution s => s.name
  | elimination removed => removed.operatorName
  | perturbation p => p.operatorName
  | unaryStep s => s.operatorName
  | redirection mode => mode.operatorName

def category : Operator → Category
  | substitution _ => .operatorSubstitution
  | elimination _ => .operandElimination
  | perturbation _ => .constantPerturbation
  | unaryStep .negateLoaded | unaryStep .negateStored => .negationInsertion
  | unaryStep _ => .unaryStep
  | redirection _ => .callSubstitution

/-- What the operator offers for an instruction. -/
def candidate? (o : Operator) (context : InstructionContext) (i : Instruction) :
    Option Replacement :=
  match o with
  | substitution s => s.candidate? i
  | elimination removed => removed.candidate? i
  | perturbation p => p.candidate? i
  | unaryStep s => s.candidate? context.method.isConstructor i
  | redirection mode => mode.candidate? context i

end Operator

end BytecodeMutation
