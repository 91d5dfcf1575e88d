/-! The parameters of instructions: operand types, arithmetic and bitwise operations, comparisons,
branch conditions and kinds of calls, each with the part it has in a mnemonic. -/

namespace BytecodeMutation

inductive NumericType where
  | int
  | long
  | float
  | double
  deriving DecidableEq, Inhabited

namespace NumericType

def all : List NumericType := [int, long, float, double]

def width : NumericType → Nat
  | int | float => 1
  | long | double => 2

def letter : NumericType → String
  | int => "i"
  | long => "l"
  | float => "f"
  | double => "d"

def name : NumericType → String
  | int => "int"
  | long => "long"
  | float => "float"
  | double => "double"

end NumericType

/-- The operand type of bitwise and shift instructions. -/
inductive IntegerType where
  | int
  | long
  deriving DecidableEq, Inhabited

def IntegerType.toNumeric : IntegerType → NumericType
  | int => .int
  | long => .long

/-- The kind of value that a load, a store or a return moves. -/
inductive LocalType where
  | int
  | long
  | float
  | double
  | reference
  deriving DecidableEq, Inhabited

namespace LocalType

def width : LocalType → Nat
  | long | double => 2
  | _ => 1

def numeric? : LocalType → Option NumericType
  | int => some .int
  | long => some .long
  | float => some .float
  | double => some .double
  | reference => none

def letter (t : LocalType) : String :=
  match t.numeric? with
  | some n => n.letter
  | none => "a"

end LocalType

def NumericType.toLocal : NumericType → LocalType
  | int => .int
  | long => .long
  | float => .float
  | double => .double

@[simp] theorem NumericType.width_toLocal (t : NumericType) : t.toLocal.width = t.width := by
  cases t <;> rfl

inductive ArithmeticOp where
  | add
  | sub
  | mul
  | div
  | rem
  deriving DecidableEq, Inhabited

namespace ArithmeticOp

def all : List ArithmeticOp := [add, sub, mul, div, rem]

def mnemonic : ArithmeticOp → String
  | add => "add"
  | sub => "sub"
  | mul => "mul"
  | div => "div"
  | rem => "rem"

def symbol : ArithmeticOp → String
  | add => "+"
  | sub => "-"
  | mul => "*"
  | div => "/"
  | rem => "%"

end ArithmeticOp

inductive BitwiseOp where
  | and
  | or
  | xor
  deriving DecidableEq, Inhabited

namespace BitwiseOp

def all : List BitwiseOp := [and, or, xor]

def mnemonic : BitwiseOp → String
  | and => "and"
  | or => "or"
  | xor => "xor"

def symbol : BitwiseOp → String
  | and => "&"
  | or => "|"
  | xor => "^"

end BitwiseOp

inductive ShiftOp where
  | shl
  | shr
  | ushr
  deriving DecidableEq, Inhabited

def ShiftOp.mnemonic : ShiftOp → String
  | shl => "shl"
  | shr => "shr"
  | ushr => "ushr"

/-- Three-way comparisons; the last letter of a floating-point one is the answer to an unordered
pair. -/
inductive CompareOp where
  | lcmp
  | fcmpl
  | fcmpg
  | dcmpl
  | dcmpg
  deriving DecidableEq, Inhabited

def CompareOp.mnemonic : CompareOp → String
  | lcmp => "lcmp"
  | fcmpl => "fcmpl"
  | fcmpg => "fcmpg"
  | dcmpl => "dcmpl"
  | dcmpg => "dcmpg"

def CompareOp.operand : CompareOp → NumericType
  | lcmp => .long
  | fcmpl | fcmpg => .float
  | dcmpl | dcmpg => .double

/-- When a conditional branch is taken. -/
inductive Condition where
  | eq
  | ne
  | lt
  | ge
  | gt
  | le
  deriving DecidableEq, Inhabited

namespace Condition

def all : List Condition := [eq, ne, lt, ge, gt, le]

def mnemonic : Condition → String
  | eq => "eq"
  | ne => "ne"
  | lt => "lt"
  | ge => "ge"
  | gt => "gt"
  | le => "le"

end Condition

inductive CallKind where
  | virtual
  | special
  | static
  | interface
  deriving DecidableEq, Inhabited

namespace CallKind

/-- Whether the call takes a receiver from below its arguments. -/
def hasReceiver : CallKind → Bool
  | static => false
  | _ => true

def mnemonic : CallKind → String
  | virtual => "invokevirtual"
  | special => "invokespecial"
  | static => "invokestatic"
  | interface => "invokeinterface"

end CallKind

end BytecodeMutation
