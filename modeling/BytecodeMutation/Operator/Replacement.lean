import BytecodeMutation.ClassUnit.Basic
import BytecodeMutation.Stack.Symbolic

/-! What an operator offers for an instruction: a description, and the code that takes the place of
the instruction. Some code parks values in local variables, which come from an allocator above the
locals of the method. -/

namespace BytecodeMutation

/-! ### Fresh local variables -/

/-- Hands out slots from `next` upwards. -/
structure LocalAllocator where
  next : UInt16
  deriving DecidableEq, Inhabited

namespace LocalAllocator

/-- Reserves `width` slots; the answer is the first of them. All slots stay below 65535. -/
def allocate (a : LocalAllocator) (width : Nat) : Except BodyError (UInt16 × LocalAllocator) :=
  if a.next.toNat + width ≤ 65535 then .ok (a.next, ⟨a.next + width.toUInt16⟩)
  else .error (.frameOverflow .maxLocals)

/-- Reserves slots for several widths in order; a refusal keeps what was reserved before it. -/
def allocateAll : List Nat → LocalAllocator → Except BodyError (List UInt16) × LocalAllocator
  | [], a => (.ok [], a)
  | width :: widths, a =>
    match a.allocate width with
    | .error e => (.error e, a)
    | .ok (index, a) =>
      match allocateAll widths a with
      | (.ok indices, a) => (.ok (index :: indices), a)
      | (.error e, a) => (.error e, a)

end LocalAllocator

/-! ### Operand elimination -/

/-- The operand of a binary operation that is thrown away: the one pushed first, which lies deeper,
or the one pushed last. -/
inductive RemovedOperand where
  | first
  | last
  deriving DecidableEq, Inhabited

namespace RemovedOperand

/-- The rearrangement that drops the operand, for operands of `width` slots. -/
def sequence : RemovedOperand → Nat → List Instruction
  | last, 1 => [.pop]
  | last, _ => [.pop2]
  | first, 1 => [.swap, .pop]
  | first, _ => [.dup2X2, .pop2, .pop2]

def operatorName : RemovedOperand → String
  | first => "aod_first"
  | last => "aod_last"

/-- Runs a sequence on two operands above another value and checks that the other operand is what
remains. -/
def prove (removed : RemovedOperand) (t : NumericType) (code : List Instruction) :
    Except BodyError Unit :=
  let stack := ((SymbolicStack.empty.push 1).push t.width).push t.width
  match stack.applyAll code with
  | (.error e, _) => .error e
  | (.ok _, after) =>
    let kept := match removed with
      | first => 2
      | last => 1
    if after.values = [0, kept] then .ok ()
    else .error (.stackWidthMismatch removed.operatorName (t.name ++ " operand kept")
      ("[" ++ ", ".intercalate (after.values.map Decimal.natText) ++ "]"))

end RemovedOperand

/-! ### Redirected calls -/

namespace Redirection

/-- The call with its parameters, for messages. -/
def callText (m : MethodRef) : String := m.owner ++ "." ++ m.name ++ m.descriptor.text

def localFor (target : MethodRef) (t : ValueType) : Except BodyError LocalType :=
  match t.local? with
  | some l => .ok l
  | none => .error (.defaultForVoid ("parameter of " ++ callText target))

def defaultFor (target : MethodRef) (t : ValueType) : Except BodyError Instruction :=
  match t.pushDefault? with
  | some i => .ok i
  | none => .error (.defaultForVoid ("argument for " ++ callText target))

def drop (t : ValueType) : Instruction := if t.width = 2 then .pop2 else .pop

def storeInto (target : MethodRef) (t : ValueType) (slot : UInt16) :
    Except BodyError Instruction :=
  (localFor target t).map fun l => .store l slot

/-- Puts the default value of the type into its slot. -/
def storeDefault (target : MethodRef) (t : ValueType) (slot : UInt16) :
    Except BodyError (List Instruction) := do
  let push ← defaultFor target t
  let store ← storeInto target t slot
  return [push, store]

/-- Takes one argument off the stack: it is parked if the new parameter at its position has the same
type, and dropped otherwise, in favour of a default value if there is a new parameter. -/
def unwind (target : MethodRef) (old : ValueType) : Option (ValueType × UInt16) →
    Except BodyError (List Instruction)
  | none => return [drop old]
  | some (new, slot) =>
    if new = old then (storeInto target old slot).map ([·])
    else (storeDefault target new slot).map (drop old :: ·)

/-- The parts of a list of code, one after the other; the first refusal wins. -/
def concat : List (Except BodyError (List Instruction)) → Except BodyError (List Instruction)
  | [] => .ok []
  | part :: parts => do
    let code ← part
    let rest ← concat parts
    return code ++ rest

/-- Unwinds the arguments from the top of the stack down, gives the additional parameters their
default values, and loads all parameters in order before the call. -/
def marshal (old : List ValueType) (target : MethodRef) (slots : List UInt16) :
    Except BodyError (List Instruction) := do
  let new := target.descriptor.params.zip slots
  let parked ← concat
    ((old.zipIdx.map fun (t, i) => (t, new[i]?)).reverse.map fun (t, p) => unwind target t p)
  let added ← concat ((new.drop old.length).map fun (t, slot) => storeDefault target t slot)
  let loaded ← concat
    (new.map fun (t, slot) => (localFor target t).map fun l => [.load l slot])
  return parked ++ added ++ loaded ++ [.invoke target]

end Redirection

/-! ### Replacements -/

/-- How the new code comes about. -/
inductive Emission where
  | sequence (code : List Instruction)
  | dropOperand (removed : RemovedOperand) (t : NumericType)
  /-- The arguments of `call` are turned into those of `target`. -/
  | redirect (call target : MethodRef)
  deriving DecidableEq, Inhabited

/-- The new code, and the allocator after it. -/
def Emission.emit : Emission → LocalAllocator →
    Except BodyError (List Instruction) × LocalAllocator
  | sequence code, a => (.ok code, a)
  | dropOperand removed t, a =>
    let code := removed.sequence t.width
    ((removed.prove t code).map fun _ => code, a)
  | redirect call target, a =>
    match LocalAllocator.allocateAll (target.descriptor.params.map ValueType.width) a with
    | (.error e, a) => (.error e, a)
    | (.ok slots, a) => (Redirection.marshal call.descriptor.params target slots, a)

structure Replacement where
  description : String
  emission : Emission
  deriving DecidableEq, Inhabited

def Replacement.single (i : Instruction) (description : String) : Replacement :=
  ⟨description, .sequence [i]⟩

end BytecodeMutation
