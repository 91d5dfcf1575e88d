import BytecodeMutation.Binary.Basic
import BytecodeMutation.Descriptor.Text
import BytecodeMutation.Error
import BytecodeMutation.Instruction.Operation

/-! The instructions of a method body, grouped by shape rather than by opcode: the addition of two
ints is `arith .add .int`, a branch on `<` between two ints is `ifCompare .lt label`. Labels and
source lines are pseudo instructions of the same list. -/

namespace BytecodeMutation

/-- A method as a call site names it. -/
structure MethodRef where
  kind : CallKind
  owner : String
  name : String
  descriptor : MethodDescriptor
  deriving DecidableEq, Inhabited

structure FieldRef where
  owner : String
  name : String
  descriptor : ValueType
  deriving DecidableEq, Inhabited

/-- What the load-constant instruction pushes. -/
inductive Constant where
  | int (v : Int32)
  | long (v : Int64)
  | float (v : Binary32)
  | double (v : Binary64)
  | string (text : String)
  | classOf (name : String)
  deriving DecidableEq, Inhabited

def Constant.type : Constant → ValueType
  | int _ => .int
  | long _ => .long
  | float _ => .float
  | double _ => .double
  | string _ => .object "java/lang/String"
  | classOf _ => .object "java/lang/Class"

abbrev Label := UInt32

/-- The short constant forms hold any value here; as code they exist for -1 to 5 (int), 0 and 1
(long, double) and 0, 1 and 2 (float). -/
inductive Instruction where
  | nop
  | nullConst
  | intConst (v : Int32)
  | longConst (v : Int64)
  | floatConst (v : Binary32)
  | doubleConst (v : Binary64)
  | bytePush (v : Int8)
  | shortPush (v : Int16)
  | loadConst (c : Constant)
  | load (t : LocalType) (index : UInt16)
  | store (t : LocalType) (index : UInt16)
  | increment (index : UInt16) (delta : Int16)
  | arith (op : ArithmeticOp) (t : NumericType)
  | neg (t : NumericType)
  | bitwise (op : BitwiseOp) (t : IntegerType)
  | shift (op : ShiftOp) (t : IntegerType)
  | convert (source target : NumericType)
  | compare (op : CompareOp)
  | ifZero (c : Condition) (label : Label)
  | ifCompare (c : Condition) (label : Label)
  | ifSame (c : Condition) (label : Label)
  | ifNull (label : Label)
  | ifNonNull (label : Label)
  | goto (label : Label)
  | pop
  | pop2
  | dup
  | dupX1
  | dupX2
  | dup2
  | dup2X1
  | dup2X2
  | swap
  | invoke (method : MethodRef)
  | getField (field : FieldRef)
  | putField (field : FieldRef)
  | getStatic (field : FieldRef)
  | putStatic (field : FieldRef)
  | new (className : String)
  | checkCast (className : String)
  | instanceOf (className : String)
  | arrayLength
  | athrow
  | ret
  | valueReturn (t : LocalType)
  | label (label : Label)
  | line (number : UInt32)
  deriving DecidableEq, Inhabited

namespace Instruction

/-- Pseudo instructions carry no code. -/
def isPseudo : Instruction → Bool
  | label _ | line _ => true
  | _ => false

end Instruction

namespace ValueType

/-- The kind of load and store for values of the type; void has none. -/
def local? : ValueType → Option LocalType
  | boolean | byte | char | short | int => some .int
  | long => some .long
  | float => some .float
  | double => some .double
  | object _ | array _ => some .reference
  | void => none

/-- The instruction that pushes the default value of the type; void has none. -/
def pushDefault? : ValueType → Option Instruction
  | boolean | byte | char | short | int => some (.intConst 0)
  | long => some (.longConst 0)
  | float => some (.floatConst .zero)
  | double => some (.doubleConst .zero)
  | object _ | array _ => some .nullConst
  | void => none

/-- As `pushDefault?`, with the reason for a refusal. -/
def pushDefault (t : ValueType) : Except BodyError Instruction :=
  match t.pushDefault? with
  | some i => .ok i
  | none => .error (.defaultForVoid "default value requested")

end ValueType

end BytecodeMutation
