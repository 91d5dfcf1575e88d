import BytecodeMutation.Operator.Replacement

/-! Numeric literals in code: which instructions push one, the most compact instruction for a given
one, and the five ways to perturb it. -/

namespace BytecodeMutation

inductive Literal where
  | int (v : Int32)
  | long (v : Int64)
  | float (v : Binary32)
  | double (v : Binary64)
  deriving DecidableEq, Inhabited

inductive Perturbation where
  | addOne
  | subOne
  | negate
  | replaceOne
  | replaceZero
  deriving DecidableEq, Inhabited

namespace Perturbation

def all : List Perturbation := [addOne, subOne, negate, replaceOne, replaceZero]

def operatorName : Perturbation → String
  | addOne => "crcr_add_one"
  | subOne => "crcr_sub_one"
  | negate => "crcr_negate"
  | replaceOne => "crcr_replace_one"
  | replaceZero => "crcr_replace_zero"

end Perturbation

namespace Literal

/-- The number that an instruction pushes. -/
def ofInstruction? : Instruction → Option Literal
  | .intConst v => some (int v)
  | .bytePush v => some (int v.toInt32)
  | .shortPush v => some (int v.toInt32)
  | .longConst v => some (long v)
  | .floatConst v => some (float v)
  | .doubleConst v => some (double v)
  | .loadConst (.int v) => some (int v)
  | .loadConst (.long v) => some (long v)
  | .loadConst (.float v) => some (float v)
  | .loadConst (.double v) => some (double v)
  | _ => none

/-- The most compact instruction that pushes the literal. A negative zero has no short form. -/
def materialize : Literal → Instruction
  | int v =>
    if -1 ≤ v.toInt ∧ v.toInt ≤ 5 then .intConst v
    else if -128 ≤ v.toInt ∧ v.toInt ≤ 127 then .bytePush (Int8.ofInt v.toInt)
    else if -32768 ≤ v.toInt ∧ v.toInt ≤ 32767 then .shortPush (Int16.ofInt v.toInt)
    else .loadConst (.int v)
  | long v => if v = 0 ∨ v = 1 then .longConst v else .loadConst (.long v)
  | float v => if v = .zero ∨ v = .one ∨ v = .two then .floatConst v else .loadConst (.float v)
  | double v => if v = .zero ∨ v = .one then .doubleConst v else .loadConst (.double v)

/-- Integers wrap around. -/
def perturb : Perturbation → Literal → Literal
  | .addOne, int v => int (v + 1)
  | .subOne, int v => int (v - 1)
  | .negate, int v => int (-v)
  | .replaceOne, int _ => int 1
  | .replaceZero, int _ => int 0
  | .addOne, long v => long (v + 1)
  | .subOne, long v => long (v - 1)
  | .negate, long v => long (-v)
  | .replaceOne, long _ => long 1
  | .replaceZero, long _ => long 0
  | .addOne, float v => float v.addOne
  | .subOne, float v => float v.subOne
  | .negate, float v => float v.negate
  | .replaceOne, float _ => float .one
  | .replaceZero, float _ => float .zero
  | .addOne, double v => double v.addOne
  | .subOne, double v => double v.subOne
  | .negate, double v => double v.negate
  | .replaceOne, double _ => double .one
  | .replaceZero, double _ => double .zero

def typeName : Literal → String
  | int _ => "int"
  | long _ => "long"
  | float _ => "float"
  | double _ => "double"

def text : Literal → String
  | int v => Decimal.intText v.toInt
  | long v => Decimal.intText v.toInt ++ "L"
  | float v => v.text ++ "f"
  | double v => v.text

end Literal

/-- A literal that the perturbation changes is replaced; one that it leaves the same is not worth a
site. -/
def Perturbation.candidate? (p : Perturbation) (i : Instruction) : Option Replacement :=
  match Literal.ofInstruction? i with
  | none => none
  | some v =>
    let w := v.perturb p
    if w = v then none
    else some (.single w.materialize
      ("Replaced constant " ++ v.text ++ " with " ++ w.text ++ " (" ++ v.typeName ++ ")"))

end BytecodeMutation
