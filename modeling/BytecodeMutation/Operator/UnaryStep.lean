import BytecodeMutation.Operator.Replacement

/-! Steps of one and negations on local variables and on the values that are loaded from them or
stored into them. -/

namespace BytecodeMutation

open Decimal

inductive UnaryStep where
  /-- The increment goes the other way. -/
  | reverse
  /-- The increment is greater by one. -/
  | addIncrement
  /-- One is added to a local right before it is loaded. -/
  | preIncrement
  /-- One is subtracted from a local right before it is loaded. -/
  | preDecrement
  /-- The local is negated before it is incremented. -/
  | negateIncremented
  /-- The value is negated right after it is loaded. -/
  | negateLoaded
  /-- The value is negated right before it is stored. -/
  | negateStored
  deriving DecidableEq, Inhabited

namespace UnaryStep

def all : List UnaryStep :=
  [reverse, addIncrement, preIncrement, preDecrement, negateIncremented, negateLoaded, negateStored]

def operatorName : UnaryStep → String
  | reverse => "uoi_reverse"
  | addIncrement => "uoi_add_increment"
  | preIncrement => "uoi_pre_increment"
  | preDecrement => "uoi_pre_decrement"
  | negateIncremented => "abs_iinc"
  | negateLoaded => "abs_load"
  | negateStored => "abs_store"

/-- The instruction that pushes one. -/
def pushOne : NumericType → Instruction
  | .int => .intConst 1
  | .long => .longConst 1
  | .float => .floatConst .one
  | .double => .doubleConst .one

/-- A local is changed by one and left on the stack. Only ints have an instruction for the step. -/
def stepAndLoad (t : NumericType) (index : UInt16) (up : Bool) : List Instruction :=
  match t with
  | .int => [.increment index (if up then 1 else -1), .load .int index]
  | t =>
    [.load t.toLocal index, pushOne t, .arith (if up then .add else .sub) t,
      .store t.toLocal index, .load t.toLocal index]

def changeText (index : UInt16) (source target : Int16) : String :=
  "increment of local " ++ natText index.toNat ++ ": " ++ intText source.toInt ++ " -> " ++
    intText target.toInt

/-- An increment goes the other way if the opposite is another 16-bit number. -/
def reversed? (delta : Int16) : Option Int16 :=
  if delta = 0 ∨ delta = -32768 then none else some (-delta)

def raised? (delta : Int16) : Option Int16 := if delta = 32767 then none else some (delta + 1)

/-- The code for an instruction and its description. Values are not negated after a load inside a
constructor. -/
def candidate? (s : UnaryStep) (inConstructor : Bool) (i : Instruction) : Option Replacement :=
  match s, i with
  | reverse, .increment index delta =>
    (reversed? delta).map fun opposite =>
      .single (.increment index opposite) ("Reversed " ++ changeText index delta opposite)
  | addIncrement, .increment index delta =>
    (raised? delta).map fun raised =>
      .single (.increment index raised) ("Changed " ++ changeText index delta raised)
  | preIncrement, .load t index =>
    t.numeric?.map fun n =>
      ⟨"Incremented local " ++ natText index.toNat ++ " before " ++ i.mnemonic,
        .sequence (stepAndLoad n index true)⟩
  | preDecrement, .load t index =>
    t.numeric?.map fun n =>
      ⟨"Decremented local " ++ natText index.toNat ++ " before " ++ i.mnemonic,
        .sequence (stepAndLoad n index false)⟩
  | negateIncremented, .increment index _ =>
    some ⟨"Negated local " ++ natText index.toNat ++ " before " ++ i.mnemonic,
      .sequence [.load .int index, .neg .int, .store .int index, i]⟩
  | negateLoaded, .load t _ =>
    if inConstructor then none
    else t.numeric?.map fun n => ⟨"Negated value of " ++ i.mnemonic, .sequence [i, .neg n]⟩
  | negateStored, .store t _ =>
    t.numeric?.map fun n => ⟨"Negated value before " ++ i.mnemonic, .sequence [.neg n, i]⟩
  | _, _ => none

end UnaryStep

end BytecodeMutation
