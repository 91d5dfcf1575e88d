import BytecodeMutation.Operator.Basic
import BytecodeMutation.Site.Registry
import BytecodeMutation.Stack.Replacement

/-! The traversal of one method body. Every operator passes over all instructions in turn and
registers what it offers; the one candidate that equals the target is put into the code. A refusal
abandons the whole body. -/

namespace BytecodeMutation

/-- What one operator has made of the instructions visited so far. -/
structure PassState where
  registry : SiteRegistry
  locals : LocalAllocator
  extraStack : Nat
  applied : Bool
  code : List Instruction
  deriving Inhabited

namespace PassState

/-- Visits one instruction; the line of a line marker holds from the marker on. -/
def visit (o : Operator) (context : InstructionContext) (index : Nat) (i : Instruction)
    (s : PassState) : Except BodyError PassState := do
  let registry := match i with
    | .line n => s.registry.setLine (some n)
    | _ => s.registry
  match o.candidate? context i with
  | none => return { s with registry, code := s.code ++ [i] }
  | some r =>
    let registry ← registry.register o.name o.category index r.description
    let id := registry.identify o.name index
    if registry.shouldMutate id then
      let (emitted, locals) := r.emission.emit s.locals
      let code ← emitted
      let _ ← verifyReplacement o.name [i] code
      return {
        registry := registry.markApplied id
        locals
        extraStack := additionalStack [i] code
        applied := true
        code := s.code ++ code }
    else return { s with registry, code := s.code ++ [i] }

/-- Visits instructions from a position on. -/
def visitFrom (o : Operator) (context : InstructionContext) :
    Nat → List Instruction → PassState → Except BodyError PassState
  | _, [], s => .ok s
  | index, i :: is, s => do
    let s ← s.visit o context index i
    visitFrom o context (index + 1) is s

def start (registry : SiteRegistry) (method : MethodBody) : PassState :=
  ⟨registry.setLine none, ⟨method.maxLocals⟩, 0, false, []⟩

/-- The method with the code and the frame sizes of a finished pass. -/
def body (s : PassState) (method : MethodBody) : Except BodyError MethodBody :=
  if method.maxStack.toNat + s.extraStack ≤ 65535 then
    .ok { method with
      maxStack := method.maxStack + s.extraStack.toUInt16
      maxLocals := s.locals.next
      instructions := s.code }
  else .error (.frameOverflow .maxStack)

end PassState

/-- The sites of a method, and the mutated method if the target was applied. -/
structure Traversal where
  registry : SiteRegistry
  mutated : Option MethodBody
  deriving Inhabited

namespace Traversal

def sites (t : Traversal) : List MutationSite := t.registry.sites

/-- One pass of an operator over the method. -/
def pass (context : InstructionContext) (t : Traversal) (o : Operator) :
    Except BodyError Traversal := do
  let method := context.method
  let s ← PassState.visitFrom o context 0 method.instructions (PassState.start t.registry method)
  let body ← s.body method
  return ⟨s.registry, if s.applied then some body else t.mutated⟩

/-- The passes of all operators in order. -/
def run (operators : List Operator) (context : InstructionContext) (registry : SiteRegistry) :
    Except BodyError Traversal :=
  operators.foldlM (pass context) ⟨registry, none⟩

end Traversal

end BytecodeMutation
