import BytecodeMutation.Instruction.Basic
import BytecodeMutation.Json.Number

/-! The JSON form of instructions: an alternative is written as its name, or as an object with the
name as only key when it has operands; several operands form a list. Reading also takes an object
with null for an alternative without operands and lists for records. -/

namespace BytecodeMutation

open Json (tagged text)

/-! ### Names without operands -/

/-- Finds the element with the given tag; a value under the tag has to be null. -/
def Json.tag? {α : Type} (all : List α) (tag : α → String) (j : Json) : Option α :=
  match j.choice? with
  | some (key, none) | some (key, some .null) => all.find? fun x => tag x == key
  | _ => none

def NumericType.tag : NumericType → String
  | int => "Int"
  | long => "Long"
  | float => "Float"
  | double => "Double"

def IntegerType.tag : IntegerType → String
  | int => "Int"
  | long => "Long"

def LocalType.tag : LocalType → String
  | int => "Int"
  | long => "Long"
  | float => "Float"
  | double => "Double"
  | reference => "Reference"

def ArithmeticOp.tag : ArithmeticOp → String
  | add => "Add"
  | sub => "Sub"
  | mul => "Mul"
  | div => "Div"
  | rem => "Rem"

def BitwiseOp.tag : BitwiseOp → String
  | and => "And"
  | or => "Or"
  | xor => "Xor"

def ShiftOp.tag : ShiftOp → String
  | shl => "Shl"
  | shr => "Shr"
  | ushr => "UShr"

def CompareOp.tag : CompareOp → String
  | lcmp => "LCmp"
  | fcmpl => "FCmpL"
  | fcmpg => "FCmpG"
  | dcmpl => "DCmpL"
  | dcmpg => "DCmpG"

def Condition.tag : Condition → String
  | eq => "Eq"
  | ne => "Ne"
  | lt => "Lt"
  | ge => "Ge"
  | gt => "Gt"
  | le => "Le"

def CallKind.tag : CallKind → String
  | virtual => "Virtual"
  | special => "Special"
  | static => "Static"
  | interface => "Interface"

namespace Json

def numericType? : Json → Option NumericType := tag? NumericType.all NumericType.tag

def integerType? : Json → Option IntegerType := tag? [.int, .long] IntegerType.tag

def localType? : Json → Option LocalType :=
  tag? [.int, .long, .float, .double, .reference] LocalType.tag

def arithmeticOp? : Json → Option ArithmeticOp := tag? ArithmeticOp.all ArithmeticOp.tag

def bitwiseOp? : Json → Option BitwiseOp := tag? BitwiseOp.all BitwiseOp.tag

def shiftOp? : Json → Option ShiftOp := tag? [.shl, .shr, .ushr] ShiftOp.tag

def compareOp? : Json → Option CompareOp :=
  tag? [.lcmp, .fcmpl, .fcmpg, .dcmpl, .dcmpg] CompareOp.tag

def condition? : Json → Option Condition := tag? Condition.all Condition.tag

def callKind? : Json → Option CallKind :=
  tag? [.virtual, .special, .static, .interface] CallKind.tag

/-! ### Numbers -/

def int8? (j : Json) : Option Int8 := (j.intIn? (-128) 127).map Int8.ofInt

def int16? (j : Json) : Option Int16 := (j.intIn? (-32768) 32767).map Int16.ofInt

def int32? (j : Json) : Option Int32 := (j.intIn? (-2147483648) 2147483647).map Int32.ofInt

def int64? (j : Json) : Option Int64 :=
  (j.intIn? (-0x8000000000000000) 0x7fffffffffffffff).map Int64.ofInt

def uint16? (j : Json) : Option UInt16 := (j.natBelow? 65536).map Nat.toUInt16

def uint32? (j : Json) : Option UInt32 := (j.natBelow? 0x100000000).map Nat.toUInt32

def uint64? (j : Json) : Option UInt64 := (j.natBelow? 0x10000000000000000).map Nat.toUInt64

/-! ### References and constants -/

def descriptor? (j : Json) : Option MethodDescriptor := j.text?.bind MethodDescriptor.ofText?

def valueType? (j : Json) : Option ValueType := j.text?.bind ValueType.ofText?

def methodRef? (j : Json) : Option MethodRef := do
  match ← j.fields? ["kind", "owner", "name", "descriptor"] with
  | [some kind, some owner, some name, some descriptor] =>
    some ⟨← kind.callKind?, ← owner.text?, ← name.text?, ← descriptor.descriptor?⟩
  | _ => none

def fieldRef? (j : Json) : Option FieldRef := do
  match ← j.fields? ["owner", "name", "descriptor"] with
  | [some owner, some name, some descriptor] =>
    some ⟨← owner.text?, ← name.text?, ← descriptor.valueType?⟩
  | _ => none

def constant? (j : Json) : Option Constant := do
  match ← j.choice? with
  | ("Int", some v) => v.int32?.map .int
  | ("Long", some v) => v.int64?.map .long
  | ("Float", some v) => v.binary32?.map .float
  | ("Double", some v) => v.binary64?.map .double
  | ("String", some v) => v.text?.map .string
  | ("Class", some v) => v.text?.map .classOf
  | _ => none

/-- The two operands in a list, each read on its own. -/
def both? {α β : Type} (a? : Json → Option α) (b? : Json → Option β) (j : Json) : Option (α × β) :=
  do
    let (a, b) ← j.pair?
    some (← a? a, ← b? b)

/-- The instructions without operands by their names. -/
def plainInstruction? : String → Option Instruction
  | "Nop" => some .nop
  | "AConstNull" => some .nullConst
  | "Pop" => some .pop
  | "Pop2" => some .pop2
  | "Dup" => some .dup
  | "DupX1" => some .dupX1
  | "DupX2" => some .dupX2
  | "Dup2" => some .dup2
  | "Dup2X1" => some .dup2X1
  | "Dup2X2" => some .dup2X2
  | "Swap" => some .swap
  | "ArrayLength" => some .arrayLength
  | "AThrow" => some .athrow
  | "Return" => some .ret
  | _ => none

/-- The instructions with operands by their names. -/
def operandInstruction? (name : String) (v : Json) : Option Instruction :=
  match name with
  | "IConst" => v.int32?.map .intConst
  | "LConst" => v.int64?.map .longConst
  | "FConst" => v.binary32?.map .floatConst
  | "DConst" => v.binary64?.map .doubleConst
  | "BiPush" => v.int8?.map .bytePush
  | "SiPush" => v.int16?.map .shortPush
  | "Ldc" => v.constant?.map .loadConst
  | "Load" => (v.both? localType? uint16?).map fun (t, index) => .load t index
  | "Store" => (v.both? localType? uint16?).map fun (t, index) => .store t index
  | "IInc" => (v.both? uint16? int16?).map fun (index, delta) => .increment index delta
  | "Arith" => (v.both? arithmeticOp? numericType?).map fun (op, t) => .arith op t
  | "Neg" => v.numericType?.map .neg
  | "Logic" => (v.both? bitwiseOp? integerType?).map fun (op, t) => .bitwise op t
  | "Shift" => (v.both? shiftOp? integerType?).map fun (op, t) => .shift op t
  | "Convert" => (v.both? numericType? numericType?).map fun (s, t) => .convert s t
  | "Compare" => v.compareOp?.map .compare
  | "If" => (v.both? condition? uint32?).map fun (c, label) => .ifZero c label
  | "IfICmp" => (v.both? condition? uint32?).map fun (c, label) => .ifCompare c label
  | "IfACmp" => (v.both? condition? uint32?).map fun (c, label) => .ifSame c label
  | "IfNull" => v.uint32?.map .ifNull
  | "IfNonNull" => v.uint32?.map .ifNonNull
  | "Goto" => v.uint32?.map .goto
  | "Invoke" => v.methodRef?.map .invoke
  | "GetField" => v.fieldRef?.map .getField
  | "PutField" => v.fieldRef?.map .putField
  | "GetStatic" => v.fieldRef?.map .getStatic
  | "PutStatic" => v.fieldRef?.map .putStatic
  | "New" => v.text?.map .new
  | "CheckCast" => v.text?.map .checkCast
  | "InstanceOf" => v.text?.map .instanceOf
  | "ValueReturn" => v.localType?.map .valueReturn
  | "Label" => v.uint32?.map .label
  | "Line" => v.uint32?.map .line
  | _ => none

def instruction? (j : Json) : Option Instruction := do
  match ← j.choice? with
  | (name, none) => plainInstruction? name
  | (name, some v) =>
    match plainInstruction? name, v with
    | some i, null => some i
    | some _, _ => none
    | none, v => operandInstruction? name v

end Json

/-! ### Writing -/

def MethodRef.toJson (m : MethodRef) : Json :=
  .record [("kind", text m.kind.tag), ("owner", text m.owner), ("name", text m.name),
    ("descriptor", text m.descriptor.text)]

def FieldRef.toJson (f : FieldRef) : Json :=
  .record [("owner", text f.owner), ("name", text f.name), ("descriptor", text f.descriptor.text)]

/-- How floating-point constants are written. -/
structure FloatWriter where
  single : Binary32 → Json
  double : Binary64 → Json

/-- As JSON numbers. -/
def FloatWriter.number : FloatWriter := ⟨Json.ofBinary32, Json.ofBinary64⟩

/-- As strings that hold the displayed text. -/
def FloatWriter.display : FloatWriter := ⟨fun x => text x.text, fun x => text x.text⟩

def Constant.toJson (w : FloatWriter) : Constant → Json
  | int v => tagged "Int" (.int v.toInt)
  | long v => tagged "Long" (.int v.toInt)
  | float v => tagged "Float" (w.single v)
  | double v => tagged "Double" (w.double v)
  | string s => tagged "String" (text s)
  | classOf name => tagged "Class" (text name)

def Instruction.toJson (w : FloatWriter) : Instruction → Json
  | nop => text "Nop"
  | nullConst => text "AConstNull"
  | intConst v => tagged "IConst" (.int v.toInt)
  | longConst v => tagged "LConst" (.int v.toInt)
  | floatConst v => tagged "FConst" (w.single v)
  | doubleConst v => tagged "DConst" (w.double v)
  | bytePush v => tagged "BiPush" (.int v.toInt)
  | shortPush v => tagged "SiPush" (.int v.toInt)
  | loadConst c => tagged "Ldc" (c.toJson w)
  | load t index => tagged "Load" (.array [text t.tag, .nat index.toNat])
  | store t index => tagged "Store" (.array [text t.tag, .nat index.toNat])
  | increment index delta => tagged "IInc" (.array [.nat index.toNat, .int delta.toInt])
  | arith op t => tagged "Arith" (.array [text op.tag, text t.tag])
  | neg t => tagged "Neg" (text t.tag)
  | bitwise op t => tagged "Logic" (.array [text op.tag, text t.tag])
  | shift op t => tagged "Shift" (.array [text op.tag, text t.tag])
  | convert source target => tagged "Convert" (.array [text source.tag, text target.tag])
  | compare op => tagged "Compare" (text op.tag)
  | ifZero c target => tagged "If" (.array [text c.tag, .nat target.toNat])
  | ifCompare c target => tagged "IfICmp" (.array [text c.tag, .nat target.toNat])
  | ifSame c target => tagged "IfACmp" (.array [text c.tag, .nat target.toNat])
  | ifNull target => tagged "IfNull" (.nat target.toNat)
  | ifNonNull target => tagged "IfNonNull" (.nat target.toNat)
  | goto target => tagged "Goto" (.nat target.toNat)
  | pop => text "Pop"
  | pop2 => text "Pop2"
  | dup => text "Dup"
  | dupX1 => text "DupX1"
  | dupX2 => text "DupX2"
  | dup2 => text "Dup2"
  | dup2X1 => text "Dup2X1"
  | dup2X2 => text "Dup2X2"
  | swap => text "Swap"
  | invoke m => tagged "Invoke" m.toJson
  | getField f => tagged "GetField" f.toJson
  | putField f => tagged "PutField" f.toJson
  | getStatic f => tagged "GetStatic" f.toJson
  | putStatic f => tagged "PutStatic" f.toJson
  | new className => tagged "New" (text className)
  | checkCast className => tagged "CheckCast" (text className)
  | instanceOf className => tagged "InstanceOf" (text className)
  | arrayLength => text "ArrayLength"
  | athrow => text "AThrow"
  | ret => text "Return"
  | valueReturn t => tagged "ValueReturn" (text t.tag)
  | label n => tagged "Label" (.nat n.toNat)
  | line n => tagged "Line" (.nat n.toNat)

end BytecodeMutation
