import BytecodeMutation.Instruction.Mnemonic
import BytecodeMutation.Stack.Effect

/-! A symbolic operand stack that knows which value every slot belongs to. The instructions that
only rearrange the stack move slots and must not split a value; every other instruction takes its
operands and pushes a new value. -/

namespace BytecodeMutation

/-- One slot of a value that is `width` slots wide. -/
structure Slot where
  value : Nat
  width : Nat
  deriving DecidableEq, Inhabited

/-- The slots from the bottom up, and the number of the next new value. -/
structure SymbolicStack where
  slots : List Slot
  next : Nat
  deriving DecidableEq, Inhabited

namespace SymbolicStack

def empty : SymbolicStack := ⟨[], 0⟩

/-- Pushes a new value; its number is `s.next`. -/
def push (s : SymbolicStack) (width : Nat) : SymbolicStack :=
  ⟨s.slots ++ List.replicate width ⟨s.next, width⟩, s.next + 1⟩

def depth (s : SymbolicStack) : Nat := s.slots.length

/-- The values of a list of slots, each read at its lowest slot. -/
def valuesOf : List Slot → List Nat
  | [] => []
  | slot :: rest => slot.value :: valuesOf (rest.drop (slot.width - 1))
termination_by slots => slots.length

/-- The values on the stack from the bottom up. -/
def values (s : SymbolicStack) : List Nat := valuesOf s.slots

/-- The width of the first value that is cut off, or, if only narrow values are admitted, is not one
slot wide. -/
def splitWidth? (narrow : Bool) : List Slot → Option Nat
  | [] => none
  | slot :: rest =>
    let whole := slot.width ≤ rest.length + 1 &&
      ((slot :: rest).take slot.width).all fun other => other.value == slot.value
    if !whole || (narrow && slot.width != 1) then some slot.width
    else splitWidth? narrow (rest.drop (slot.width - 1))
termination_by slots => slots.length

/-- Checks that the slots are whole values, and narrow ones if so asked. -/
def checkBoundaries (narrow : Bool) (slots : List Slot) (i : Instruction) :
    Except BodyError Unit :=
  match splitWidth? narrow slots with
  | none => .ok ()
  | some width =>
    .error (.stackWidthMismatch i.mnemonic (if narrow then "one-slot values" else "whole values")
      ("value of width " ++ Decimal.natText width ++ " split"))

/-- A rearrangement of the top of the stack: how many slots it takes, whether each of them must be a
value of its own, and which of them it puts back, counted from the lowest one taken. -/
structure Shuffle where
  taken : Nat
  narrow : Bool
  order : List Nat

end SymbolicStack

/-- The rearrangement that an instruction makes, if it is no more than that. -/
def Instruction.shuffle? : Instruction → Option SymbolicStack.Shuffle
  | pop => some ⟨1, true, []⟩
  | pop2 => some ⟨2, false, []⟩
  | dup => some ⟨1, true, [0, 0]⟩
  | dupX1 => some ⟨2, true, [1, 0, 1]⟩
  | dupX2 => some ⟨3, false, [2, 0, 1, 2]⟩
  | dup2 => some ⟨2, false, [0, 1, 0, 1]⟩
  | dup2X1 => some ⟨3, false, [1, 2, 0, 1, 2]⟩
  | dup2X2 => some ⟨4, false, [2, 3, 0, 1, 2, 3]⟩
  | swap => some ⟨2, true, [1, 0]⟩
  | _ => none

namespace SymbolicStack

/-- The part of the taken slots that must be one narrow value although the rest may be wide: the top
of `dup_x2` and the bottom of `dup2_x1`. -/
def narrowPart : Instruction → List Slot → List Slot
  | .dupX2, slots => slots.drop 2
  | .dup2X1, slots => slots.take 1
  | _, _ => []

/-- Takes the top `n` slots. -/
def take? (s : SymbolicStack) (n : Nat) : Option (List Slot × SymbolicStack) :=
  if n ≤ s.slots.length then
    some (s.slots.drop (s.slots.length - n), { s with slots := s.slots.take (s.slots.length - n) })
  else none

/-- Executes an instruction. A refusal for want of slots leaves the stack as it is; a refusal to
split a value comes after the slots are taken. -/
def apply (i : Instruction) (s : SymbolicStack) : Except BodyError Unit × SymbolicStack :=
  match i.shuffle? with
  | some shuffle =>
    match s.take? shuffle.taken with
    | none => (.error (.stackUnderflow i.mnemonic), s)
    | some (slots, below) =>
      match checkBoundaries shuffle.narrow slots i, checkBoundaries true (narrowPart i slots) i with
      | .error e, _ | .ok _, .error e => (.error e, below)
      | .ok _, .ok _ =>
        (.ok (), { below with slots := below.slots ++ shuffle.order.filterMap (slots[·]?) })
  | none =>
    match s.take? i.stackEffect.pops with
    | none => (.error (.stackUnderflow i.mnemonic), s)
    | some (_, below) =>
      (.ok (), if i.stackEffect.pushes = 0 then below else below.push i.stackEffect.pushes)

/-- Executes a sequence up to the first refusal. -/
def applyAll : List Instruction → SymbolicStack → Except BodyError Unit × SymbolicStack
  | [], s => (.ok (), s)
  | i :: is, s =>
    match apply i s with
    | (.ok _, s) => applyAll is s
    | (.error e, s) => (.error e, s)

end SymbolicStack

end BytecodeMutation
