/-! Value types and method signatures of a stack machine with one- and two-slot values: `long` and
`double` take two slots of the operand stack or of the local variables, all other values one. -/

namespace BytecodeMutation

inductive ValueType where
  | boolean
  | byte
  | char
  | short
  | int
  | long
  | float
  | double
  | object (className : String)
  | array (element : ValueType)
  | void
  deriving DecidableEq, Inhabited

namespace ValueType

/-- The number of slots that a value of the type takes. -/
def width : ValueType → Nat
  | void => 0
  | long | double => 2
  | _ => 1

/-- The name in source code, such as `int` or `java/lang/String[]`. -/
def name : ValueType → String
  | boolean => "boolean"
  | byte => "byte"
  | char => "char"
  | short => "short"
  | int => "int"
  | long => "long"
  | float => "float"
  | double => "double"
  | object className => className
  | array element => element.name ++ "[]"
  | void => "void"

theorem width_le_two (t : ValueType) : t.width ≤ 2 := by
  cases t <;> simp [width]

theorem width_eq_zero_iff {t : ValueType} : t.width = 0 ↔ t = void := by
  cases t <;> simp [width]

end ValueType

/-- Parameter types and return type of a method. -/
structure MethodDescriptor where
  params : List ValueType
  ret : ValueType
  deriving DecidableEq, Inhabited

/-- The number of slots that the arguments take. -/
def MethodDescriptor.argumentSlots (d : MethodDescriptor) : Nat :=
  d.params.foldr (fun t slots => t.width + slots) 0

end BytecodeMutation
