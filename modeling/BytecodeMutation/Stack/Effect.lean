import BytecodeMutation.Instruction.Basic

/-! How many slots an instruction takes from the operand stack and puts on it, and the same for a
straight-line sequence: the slots that must be there before, the change of depth, and the greatest
depth on the way. -/

namespace BytecodeMutation

structure StackEffect where
  pops : Nat
  pushes : Nat
  deriving DecidableEq, Inhabited

/-- The effect of one instruction. The distance of a shift is always an int. -/
def Instruction.stackEffect : Instruction → StackEffect
  | nop | label _ | line _ | goto _ | ret | increment _ _ => ⟨0, 0⟩
  | nullConst | intConst _ | floatConst _ | bytePush _ | shortPush _ => ⟨0, 1⟩
  | longConst _ | doubleConst _ => ⟨0, 2⟩
  | loadConst c => ⟨0, c.type.width⟩
  | load t _ => ⟨0, t.width⟩
  | store t _ => ⟨t.width, 0⟩
  | arith _ t => ⟨2 * t.width, t.width⟩
  | neg t => ⟨t.width, t.width⟩
  | bitwise _ t => ⟨2 * t.toNumeric.width, t.toNumeric.width⟩
  | shift _ t => ⟨t.toNumeric.width + 1, t.toNumeric.width⟩
  | convert source target => ⟨source.width, target.width⟩
  | compare op => ⟨2 * op.operand.width, 1⟩
  | ifZero _ _ | ifNull _ | ifNonNull _ => ⟨1, 0⟩
  | ifCompare _ _ | ifSame _ _ => ⟨2, 0⟩
  | pop => ⟨1, 0⟩
  | pop2 => ⟨2, 0⟩
  | dup => ⟨1, 2⟩
  | dupX1 => ⟨2, 3⟩
  | dupX2 => ⟨3, 4⟩
  | dup2 => ⟨2, 4⟩
  | dup2X1 => ⟨3, 5⟩
  | dup2X2 => ⟨4, 6⟩
  | swap => ⟨2, 2⟩
  | invoke m =>
    ⟨m.descriptor.argumentSlots + (if m.kind.hasReceiver then 1 else 0), m.descriptor.ret.width⟩
  | getField f => ⟨1, f.descriptor.width⟩
  | putField f => ⟨1 + f.descriptor.width, 0⟩
  | getStatic f => ⟨0, f.descriptor.width⟩
  | putStatic f => ⟨f.descriptor.width, 0⟩
  | new _ => ⟨0, 1⟩
  | checkCast _ | instanceOf _ | arrayLength => ⟨1, 1⟩
  | athrow => ⟨1, 0⟩
  | valueReturn t => ⟨t.width, 0⟩

/-! ### Sequences -/

/-- The depth of the stack along a sequence, relative to the depth before it, with the least and the
greatest depth so far. -/
structure DepthTrace where
  depth : Int
  lowest : Int
  peak : Int
  deriving DecidableEq, Inhabited

namespace DepthTrace

def start : DepthTrace := ⟨0, 0, 0⟩

/-- An instruction first pops, then pushes. -/
def step (t : DepthTrace) (e : StackEffect) : DepthTrace :=
  let low := t.depth - e.pops
  let depth := low + e.pushes
  ⟨depth, min t.lowest low, max t.peak depth⟩

def run (t : DepthTrace) (is : List Instruction) : DepthTrace :=
  is.foldl (fun t i => t.step i.stackEffect) t

@[simp] theorem run_nil (t : DepthTrace) : t.run [] = t := rfl

@[simp] theorem run_cons (t : DepthTrace) (i : Instruction) (is : List Instruction) :
    t.run (i :: is) = (t.step i.stackEffect).run is := rfl

theorem run_append (t : DepthTrace) (is js : List Instruction) :
    t.run (is ++ js) = (t.run is).run js := List.foldl_append

end DepthTrace

/-- The effect of a sequence. The required slots are kept in 16 bits. -/
structure SequenceEffect where
  required : Nat
  net : Int
  peak : Int
  deriving DecidableEq, Inhabited

namespace SequenceEffect

def of (is : List Instruction) : SequenceEffect :=
  let t := DepthTrace.start.run is
  ⟨(-t.lowest).toNat % 65536, t.depth, t.peak⟩

end SequenceEffect

end BytecodeMutation
