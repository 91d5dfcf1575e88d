import BytecodeMutation.Instruction.Basic

/-! Class units: a class with the code of its methods. -/

namespace BytecodeMutation

def constructorName : String := "<init>"

def staticInitializerName : String := "<clinit>"

/-- Whether a method of that name sets up objects or a class. -/
def isInitializerName (name : String) : Bool :=
  name == constructorName || name == staticInitializerName

/-- A method with its code and the sizes of its frame. -/
structure MethodBody where
  name : String
  descriptor : MethodDescriptor
  isStatic : Bool
  maxStack : UInt16
  maxLocals : UInt16
  instructions : List Instruction
  deriving DecidableEq, Inhabited

namespace MethodBody

def isConstructor (m : MethodBody) : Bool := m.name == constructorName

def isStaticInitializer (m : MethodBody) : Bool := m.name == staticInitializerName

/-- Name and descriptor, such as `add(II)I`. -/
def signature (m : MethodBody) : String := m.name ++ m.descriptor.text

end MethodBody

structure ClassUnit where
  name : String
  sourceFile : Option String
  methods : List MethodBody
  deriving DecidableEq, Inhabited

namespace ClassUnit

/-- The position of the first method with that name and descriptor. -/
def findMethod? (u : ClassUnit) (name : String) (descriptor : MethodDescriptor) : Option Nat :=
  u.methods.findIdx? fun m => m.name == name && m.descriptor == descriptor

/-- The unit with one method replaced. -/
def setMethod (u : ClassUnit) (index : Nat) (body : MethodBody) : ClassUnit :=
  { u with methods := u.methods.set index body }

end ClassUnit

/-! ### Agreement up to the sign of zeros -/

/-- Whether two constants are the same number or text. -/
def Constant.agrees : Constant → Constant → Bool
  | float x, float y => x.equals y
  | double x, double y => x.equals y
  | c, d => c == d

def Instruction.agrees : Instruction → Instruction → Bool
  | floatConst x, floatConst y => x.equals y
  | doubleConst x, doubleConst y => x.equals y
  | loadConst c, loadConst d => c.agrees d
  | i, j => i == j

/-- Whether two lists of instructions agree place by place. -/
def Instruction.agreeAll : List Instruction → List Instruction → Bool
  | [], [] => true
  | i :: is, j :: js => i.agrees j && agreeAll is js
  | _, _ => false

def MethodBody.agrees (m n : MethodBody) : Bool :=
  { m with instructions := [] } == { n with instructions := [] } &&
    Instruction.agreeAll m.instructions n.instructions

/-- The methods of `mutant` that do not agree with those of `u` at their positions. -/
def ClassUnit.changedMethods (u mutant : ClassUnit) : List (Nat × MethodBody) :=
  ((u.methods.zip mutant.methods).zipIdx.filter fun ((m, n), _) => !m.agrees n).map
    fun ((_, n), index) => (index, n)

end BytecodeMutation
