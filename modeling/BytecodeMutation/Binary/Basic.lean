/-! Binary floating-point numbers of 32 and 64 bits, held as bit patterns. Equality of two such
values is equality of their bits, so zeros of different sign differ; `equals` compares the numbers.
Arithmetic rounds to nearest, ties to even. -/

namespace BytecodeMutation

structure Binary32 where
  bits : UInt32
  deriving DecidableEq, Inhabited

structure Binary64 where
  bits : UInt64
  deriving DecidableEq, Inhabited

namespace Binary32

def ofFloat (x : Float32) : Binary32 := ⟨x.toBits⟩

def toFloat (x : Binary32) : Float32 := Float32.ofBits x.bits

def zero : Binary32 := ⟨0⟩

def one : Binary32 := ⟨0x3f800000⟩

def two : Binary32 := ⟨0x40000000⟩

def addOne (x : Binary32) : Binary32 := ofFloat (x.toFloat + 1.0)

def subOne (x : Binary32) : Binary32 := ofFloat (x.toFloat - 1.0)

/-- Changes the sign, also of a zero. -/
def negate (x : Binary32) : Binary32 := ⟨x.bits ^^^ 0x80000000⟩

def isZero (x : Binary32) : Bool := x.bits &&& 0x7fffffff == 0

/-- Equality of numbers: zeros of both signs are equal. -/
def equals (x y : Binary32) : Bool := x == y || x.isZero && y.isZero

end Binary32

namespace Binary64

def ofFloat (x : Float) : Binary64 := ⟨x.toBits⟩

def toFloat (x : Binary64) : Float := Float.ofBits x.bits

def zero : Binary64 := ⟨0⟩

def one : Binary64 := ⟨0x3ff0000000000000⟩

def addOne (x : Binary64) : Binary64 := ofFloat (x.toFloat + 1.0)

def subOne (x : Binary64) : Binary64 := ofFloat (x.toFloat - 1.0)

/-- Changes the sign, also of a zero. -/
def negate (x : Binary64) : Binary64 := ⟨x.bits ^^^ 0x8000000000000000⟩

def isZero (x : Binary64) : Bool := x.bits &&& 0x7fffffffffffffff == 0

/-- Equality of numbers: zeros of both signs are equal. -/
def equals (x y : Binary64) : Bool := x == y || x.isZero && y.isZero

end Binary64

end BytecodeMutation
