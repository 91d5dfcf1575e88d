import BytecodeMutation.Decimal.Form
import BytecodeMutation.Instruction.Basic
import BytecodeMutation.Text.Quoted

/-! The one-line text of an instruction, such as `iadd`, `if_icmplt L3` or
`invokestatic Calc.add(II)I`. -/

namespace BytecodeMutation

open Decimal

def Constant.text : Constant → String
  | int v => intText v.toInt
  | long v => intText v.toInt ++ "L"
  | float v => v.text ++ "f"
  | double v => v.text
  | string s => Text.quoted s
  | classOf name => name ++ ".class"

def MethodRef.text (m : MethodRef) : String := m.owner ++ "." ++ m.name ++ m.descriptor.text

def FieldRef.text (f : FieldRef) : String := f.owner ++ "." ++ f.name ++ ":" ++ f.descriptor.text

def labelText (label : Label) : String := "L" ++ natText label.toNat

/-- The text of an instruction. The short float and double constants show their integer part, cut
to 32 bits. -/
def Instruction.mnemonic : Instruction → String
  | nop => "nop"
  | nullConst => "aconst_null"
  | intConst v => if v = -1 then "iconst_m1" else "iconst_" ++ intText v.toInt
  | longConst v => "lconst_" ++ intText v.toInt
  | floatConst v => "fconst_" ++ intText v.unpack.toInt32
  | doubleConst v => "dconst_" ++ intText v.unpack.toInt32
  | bytePush v => "bipush " ++ intText v.toInt
  | shortPush v => "sipush " ++ intText v.toInt
  | loadConst c => "ldc " ++ c.text
  | load t index => t.letter ++ "load " ++ natText index.toNat
  | store t index => t.letter ++ "store " ++ natText index.toNat
  | increment index delta => "iinc " ++ natText index.toNat ++ " " ++ intText delta.toInt
  | arith op t => t.letter ++ op.mnemonic
  | neg t => t.letter ++ "neg"
  | bitwise op t => t.toNumeric.letter ++ op.mnemonic
  | shift op t => t.toNumeric.letter ++ op.mnemonic
  | convert source target => source.letter ++ "2" ++ target.letter
  | compare op => op.mnemonic
  | ifZero c target => "if" ++ c.mnemonic ++ " " ++ labelText target
  | ifCompare c target => "if_icmp" ++ c.mnemonic ++ " " ++ labelText target
  | ifSame c target => "if_acmp" ++ c.mnemonic ++ " " ++ labelText target
  | ifNull target => "ifnull " ++ labelText target
  | ifNonNull target => "ifnonnull " ++ labelText target
  | goto target => "goto " ++ labelText target
  | pop => "pop"
  | pop2 => "pop2"
  | dup => "dup"
  | dupX1 => "dup_x1"
  | dupX2 => "dup_x2"
  | dup2 => "dup2"
  | dup2X1 => "dup2_x1"
  | dup2X2 => "dup2_x2"
  | swap => "swap"
  | invoke m => m.kind.mnemonic ++ " " ++ m.text
  | getField f => "getfield " ++ f.text
  | putField f => "putfield " ++ f.text
  | getStatic f => "getstatic " ++ f.text
  | putStatic f => "putstatic " ++ f.text
  | new className => "new " ++ className
  | checkCast className => "checkcast " ++ className
  | instanceOf className => "instanceof " ++ className
  | arrayLength => "arraylength"
  | athrow => "athrow"
  | ret => "return"
  | valueReturn t => t.letter ++ "return"
  | label n => labelText n ++ ":"
  | line n => "line " ++ natText n.toNat

end BytecodeMutation
