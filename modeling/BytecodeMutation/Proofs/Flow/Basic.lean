import BytecodeMutation.ClassUnit.Basic
import BytecodeMutation.Stack.Effect

/-! Control flow inside of a method, and the frames that fit along all of its paths. A depth map
says how deep the stack is before the instructions that may be reached; every path that enters an
instruction has to agree on it. -/

namespace BytecodeMutation

namespace Instruction

/-- The label that an instruction may branch to. -/
def target? : Instruction → Option Label
  | goto l | ifZero _ l | ifCompare _ l | ifSame _ l | ifNull l | ifNonNull l => some l
  | _ => none

/-- Whether the next instruction may follow. -/
def fallsThrough : Instruction → Bool
  | goto _ | ret | valueReturn _ | athrow => false
  | _ => true

/-- The first slot above the local that an instruction touches. -/
def localsEnd : Instruction → Nat
  | load t index | store t index => index.toNat + t.width
  | increment index _ => index.toNat + 1
  | _ => 0

end Instruction

/-- The positions that may be executed right after a position. -/
inductive Successor (code : List Instruction) (p : Nat) : Nat → Prop where
  | next {i : Instruction} (hi : code[p]? = some i) (hfalls : i.fallsThrough = true) :
    Successor code p (p + 1)
  | branch {i : Instruction} {l : Label} {q : Nat} (hi : code[p]? = some i)
    (htarget : i.target? = some l) (hq : code[q]? = some (.label l)) : Successor code p q

theorem Successor.of_target?_eq_none {code : List Instruction} {p q : Nat} {i : Instruction}
    (hi : code[p]? = some i) (htarget : i.target? = none) (h : Successor code p q) :
    i.fallsThrough = true ∧ q = p + 1 := by
  cases h with
  | next hi' hfalls =>
    obtain rfl := Option.some.inj (hi.symm.trans hi')
    exact ⟨hfalls, rfl⟩
  | branch hi' htarget' hq =>
    obtain rfl := Option.some.inj (hi.symm.trans hi')
    rw [htarget] at htarget'
    cases htarget'

/-- Every mapped position holds an instruction that finds its operands, keeps the stack within the
limit, and leaves the depth that its successors are mapped to. -/
def DepthsFit (code : List Instruction) (limit : Nat) (d : Nat → Option Nat) : Prop :=
  ∀ p x, d p = some x → ∃ i, code[p]? = some i ∧ i.stackEffect.pops ≤ x ∧ x ≤ limit ∧
    x - i.stackEffect.pops + i.stackEffect.pushes ≤ limit ∧
    ∀ q, Successor code p q → d q = some (x - i.stackEffect.pops + i.stackEffect.pushes)

/-- Every local that the code touches lies below the limit. -/
def LocalsFit (code : List Instruction) (limit : Nat) : Prop :=
  ∀ i ∈ code, i.localsEnd ≤ limit

/-- Code that can be entered at its beginning only and left at its end only. -/
def Instruction.IsPlain (i : Instruction) : Prop :=
  i.target? = none ∧ i.fallsThrough = true ∧ ∀ l, i ≠ .label l

/-- A plain instruction that touches locals below a slot only. -/
def Instruction.PlainBelow (n : Nat) (i : Instruction) : Prop := i.IsPlain ∧ i.localsEnd ≤ n

namespace Instruction

variable {n : Nat} {t : LocalType} {index : UInt16}

@[simp] theorem localsEnd_load : (load t index).localsEnd = index.toNat + t.width := rfl

@[simp] theorem localsEnd_store : (store t index).localsEnd = index.toNat + t.width := rfl

@[simp] theorem localsEnd_increment {delta : Int16} :
    (increment index delta).localsEnd = index.toNat + 1 := rfl

@[simp] theorem plainBelow_load : (load t index).PlainBelow n ↔ index.toNat + t.width ≤ n :=
  ⟨And.right, And.intro ⟨rfl, rfl, nofun⟩⟩

@[simp] theorem plainBelow_store : (store t index).PlainBelow n ↔ index.toNat + t.width ≤ n :=
  ⟨And.right, And.intro ⟨rfl, rfl, nofun⟩⟩

@[simp] theorem plainBelow_increment {delta : Int16} :
    (increment index delta).PlainBelow n ↔ index.toNat + 1 ≤ n :=
  ⟨And.right, And.intro ⟨rfl, rfl, nofun⟩⟩

@[simp] theorem plainBelow_arith {op : ArithmeticOp} {t : NumericType} :
    (arith op t).PlainBelow n := ⟨⟨rfl, rfl, nofun⟩, Nat.zero_le n⟩

@[simp] theorem plainBelow_neg {t : NumericType} : (neg t).PlainBelow n :=
  ⟨⟨rfl, rfl, nofun⟩, Nat.zero_le n⟩

@[simp] theorem plainBelow_pop : pop.PlainBelow n := ⟨⟨rfl, rfl, nofun⟩, Nat.zero_le n⟩

@[simp] theorem plainBelow_pop2 : pop2.PlainBelow n := ⟨⟨rfl, rfl, nofun⟩, Nat.zero_le n⟩

@[simp] theorem plainBelow_swap : swap.PlainBelow n := ⟨⟨rfl, rfl, nofun⟩, Nat.zero_le n⟩

@[simp] theorem plainBelow_dup2X2 : dup2X2.PlainBelow n := ⟨⟨rfl, rfl, nofun⟩, Nat.zero_le n⟩

end Instruction

end BytecodeMutation
