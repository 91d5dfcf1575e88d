import BytecodeMutation.Operator.Replacement

/-! Operator substitution: an operator is replaced by another one of its family. The families are
the arithmetic operators on one type, the bitwise operators, the conditions of a branch, and two
families of dynamically dispatched Groovy operations, which appear as the name of a method that is
loaded as a string, and as calls of comparison helpers. -/

namespace BytecodeMutation

/-- A family and the member that takes the place of all others. -/
inductive Substitution where
  | arithmetic (op : ArithmeticOp) (t : NumericType)
  | bitwise (op : BitwiseOp)
  | relational (c : Condition)
  | dynamicArithmetic (op : ArithmeticOp)
  | dynamicRelational (c : Condition)
  deriving DecidableEq, Inhabited

/-- The class with the comparison helpers of Groovy. -/
def groovyAdapter : String := "org/codehaus/groovy/runtime/ScriptBytecodeAdapter"

/-- The method that a dynamic arithmetic operator calls. -/
def ArithmeticOp.dynamicName : ArithmeticOp → String
  | add => "plus"
  | sub => "minus"
  | mul => "multiply"
  | div => "div"
  | rem => "mod"

/-- The helper that makes a dynamic comparison. -/
def Condition.dynamicName : Condition → String
  | eq => "compareEqual"
  | ne => "compareNotEqual"
  | lt => "compareLessThan"
  | ge => "compareGreaterThanEqual"
  | gt => "compareGreaterThan"
  | le => "compareLessThanEqual"

def ArithmeticOp.ofDynamicName? (name : String) : Option ArithmeticOp :=
  all.find? fun op => op.dynamicName == name

def MethodRef.dynamicCondition? (m : MethodRef) : Option Condition :=
  if m.owner == groovyAdapter then Condition.all.find? fun c => c.dynamicName == m.name else none

namespace Substitution

def all : List Substitution :=
  (NumericType.all.flatMap fun t => ArithmeticOp.all.map fun op => arithmetic op t) ++
    BitwiseOp.all.map bitwise ++ Condition.all.map relational ++
    ArithmeticOp.all.map dynamicArithmetic ++ Condition.all.map dynamicRelational

def name : Substitution → String
  | arithmetic op t => "aor_" ++ t.letter ++ op.mnemonic
  | bitwise op => "obbn_" ++ op.mnemonic
  | relational c => "ror_if" ++ c.mnemonic
  | dynamicArithmetic op => "groovy_" ++ op.mnemonic
  | dynamicRelational c => "groovy_cmp" ++ c.mnemonic

/-- The instruction with the operator replaced, if it belongs to the family and has another
operator. -/
def substitute? : Substitution → Instruction → Option Instruction
  | arithmetic target t, .arith op u =>
    if u = t ∧ op ≠ target then some (.arith target t) else none
  | bitwise target, .bitwise op t => if op ≠ target then some (.bitwise target t) else none
  | relational target, .ifZero c label => if c ≠ target then some (.ifZero target label) else none
  | relational target, .ifCompare c label =>
    if c ≠ target then some (.ifCompare target label) else none
  | dynamicArithmetic target, .loadConst (.string name) =>
    match ArithmeticOp.ofDynamicName? name with
    | some op => if op ≠ target then some (.loadConst (.string target.dynamicName)) else none
    | none => none
  | dynamicRelational target, .invoke m =>
    match m.dynamicCondition? with
    | some c => if c ≠ target then some (.invoke { m with name := target.dynamicName }) else none
    | none => none
  | _, _ => none

def describe (s : Substitution) (old replacement : Instruction) : String :=
  let change := old.mnemonic ++ " -> " ++ replacement.mnemonic
  match s, old with
  | arithmetic target t, .arith op _ =>
    "Replaced " ++ op.symbol ++ " with " ++ target.symbol ++ " (" ++ t.name ++ "): " ++ change
  | bitwise target, .bitwise op _ =>
    "Replaced " ++ op.symbol ++ " with " ++ target.symbol ++ ": " ++ change
  | dynamicArithmetic target, _ =>
    "Replaced dynamic arithmetic operator with " ++ target.symbol ++ ": " ++ change
  | dynamicRelational target, _ => "Replaced dynamic comparison with " ++ target.dynamicName
  | _, _ => "Replaced branch " ++ old.mnemonic ++ " with " ++ replacement.mnemonic

def candidate? (s : Substitution) (i : Instruction) : Option Replacement :=
  (s.substitute? i).map fun j => .single j (s.describe i j)

end Substitution

end BytecodeMutation
