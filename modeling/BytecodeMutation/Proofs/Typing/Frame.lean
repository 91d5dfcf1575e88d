import BytecodeMutation.Proofs.Flow.Basic
import BytecodeMutation.Proofs.Stack.Forms

/-! The types of the values in a frame, and what every instruction makes of them. An instruction
checks in a frame if it finds operands of its types there, whole ones, and touches locals below a
limit only; a sequence checks if every instruction does in the frame that the one before it
leaves. -/

namespace BytecodeMutation

/-! ### Locals -/

/-- The types of the values in the locals. A wide value is found at its first slot, and its second
slot holds no value of its own. -/
@[ext] structure LocalTypes where
  typeAt : Nat → Option LocalType
  wide_alone : ∀ n t, typeAt n = some t → t.width = 2 → typeAt (n + 1) = none

namespace LocalTypes

def isWideAt (l : LocalTypes) (n : Nat) : Bool := (l.typeAt n).any fun t => t.width == 2

theorem isWideAt_iff {l : LocalTypes} {n : Nat} :
    l.isWideAt n = true ↔ ∃ t, l.typeAt n = some t ∧ t.width = 2 := by
  simp [isWideAt, Option.any_eq_true]

/-- Puts a value into its slots. Nothing is left of what was there, nor of a wide value that begins
right below. -/
def put (l : LocalTypes) (n : Nat) (t : LocalType) : LocalTypes where
  typeAt m :=
    if m = n then some t
    else if m = n + 1 ∧ t.width = 2 ∨ m + 1 = n ∧ l.isWideAt m then none
    else l.typeAt m
  wide_alone m u hm hwide := by
    split at hm
    · rename_i hmn
      obtain rfl := Option.some.inj hm
      rw [if_neg (by omega), if_pos (.inl ⟨by omega, hwide⟩)]
    · split at hm
      · cases hm
      · rename_i hapart
        have hne : m + 1 ≠ n := fun h => hapart (.inr ⟨h, isWideAt_iff.2 ⟨u, hm, hwide⟩⟩)
        rw [if_neg hne]
        split
        · rfl
        · exact l.wide_alone m u hm hwide

/-- No value lies on both sides of a slot. -/
def PartedAt (l : LocalTypes) (limit : Nat) : Prop :=
  ∀ n < limit, ∀ t, l.typeAt n = some t → n + t.width ≤ limit

variable {l : LocalTypes} {m n : Nat} {t : LocalType}

/-- To put a value where one of its type is changes nothing. -/
theorem put_self (h : l.typeAt n = some t) : l.put n t = l := by
  ext m : 2
  change (if m = n then some t
    else if m = n + 1 ∧ t.width = 2 ∨ m + 1 = n ∧ l.isWideAt m then none else l.typeAt m) = _
  split
  · rename_i hmn
    rw [hmn, h]
  · split
    · rename_i hover
      rcases hover with ⟨rfl, hwide⟩ | ⟨rfl, hwide⟩
      · exact (l.wide_alone n t h hwide).symm
      · obtain ⟨u, hu, hwide⟩ := isWideAt_iff.1 hwide
        rw [l.wide_alone m u hu hwide] at h
        cases h
    · rfl

end LocalTypes

/-! ### Instructions -/

/-- The types of the operands that an instruction takes, the lowest one first, and of its result. -/
structure Signature where
  operands : List LocalType
  result : Option LocalType

namespace Instruction

/-- The signature of an instruction that leaves the locals and all other values alone. A void
parameter or field has no type. -/
def signature? : Instruction → Option Signature
  | nop | goto _ | ret | label _ | line _ => some ⟨[], none⟩
  | nullConst | new _ => some ⟨[], some .reference⟩
  | intConst _ | bytePush _ | shortPush _ => some ⟨[], some .int⟩
  | longConst _ => some ⟨[], some .long⟩
  | floatConst _ => some ⟨[], some .float⟩
  | doubleConst _ => some ⟨[], some .double⟩
  | loadConst c => some ⟨[], c.type.local?⟩
  | arith _ t => some ⟨[t.toLocal, t.toLocal], some t.toLocal⟩
  | neg t => some ⟨[t.toLocal], some t.toLocal⟩
  | bitwise _ t => some ⟨[t.toNumeric.toLocal, t.toNumeric.toLocal], some t.toNumeric.toLocal⟩
  | shift _ t => some ⟨[t.toNumeric.toLocal, .int], some t.toNumeric.toLocal⟩
  | convert source target => some ⟨[source.toLocal], some target.toLocal⟩
  | compare op => some ⟨[op.operand.toLocal, op.operand.toLocal], some .int⟩
  | ifZero _ _ => some ⟨[.int], none⟩
  | ifCompare _ _ => some ⟨[.int, .int], none⟩
  | ifSame _ _ => some ⟨[.reference, .reference], none⟩
  | ifNull _ | ifNonNull _ | athrow => some ⟨[.reference], none⟩
  | invoke m => (m.descriptor.params.mapM ValueType.local?).map fun params =>
      ⟨(if m.kind.hasReceiver then [.reference] else []) ++ params, m.descriptor.ret.local?⟩
  | getField f => f.descriptor.local?.map fun t => ⟨[.reference], some t⟩
  | putField f => f.descriptor.local?.map fun t => ⟨[.reference, t], none⟩
  | getStatic f => f.descriptor.local?.map fun t => ⟨[], some t⟩
  | putStatic f => f.descriptor.local?.map fun t => ⟨[t], none⟩
  | checkCast _ => some ⟨[.reference], some .reference⟩
  | instanceOf _ | arrayLength => some ⟨[.reference], some .int⟩
  | valueReturn t => some ⟨[t], none⟩
  | load _ _ | store _ _ | increment _ _ | pop | pop2 | dup | dupX1 | dupX2 | dup2 | dup2X1 | dup2X2
  | swap => none

end Instruction

/-- The types of the values on the stack from the top down, and of those in the locals. -/
@[ext] structure TypeFrame where
  stack : List LocalType
  locals : LocalTypes

namespace TypeFrame

/-- Takes the operands of a signature off the stack and puts its result there. -/
def transfer? (f : TypeFrame) (s : Signature) : Option TypeFrame :=
  if s.operands.reverse <+: f.stack then
    some { f with stack := s.result.toList ++ f.stack.drop s.operands.length }
  else none

/-- Rearranges the values on top of the stack in the form that fits them. -/
def rearrange? (f : TypeFrame) (forms : List Form) : Option TypeFrame :=
  (forms.find? fun form =>
    form.widths.reverse.isPrefixOf (f.stack.map LocalType.width)).map fun form =>
      { f with
        stack := (form.arrange (f.stack.take form.widths.length).reverse).reverse ++
          f.stack.drop form.widths.length }

/-- The frame after an instruction, if it finds values of the right types. -/
def step? (f : TypeFrame) : Instruction → Option TypeFrame
  | .load t n =>
    if f.locals.typeAt n.toNat = some t then some { f with stack := t :: f.stack } else none
  | .store t n =>
    (f.transfer? ⟨[t], none⟩).map fun g => { g with locals := g.locals.put n.toNat t }
  | .increment n _ => if f.locals.typeAt n.toNat = some .int then some f else none
  | i =>
    match i.signature? with
    | some s => f.transfer? s
    | none => f.rearrange? i.forms

/-- The frame after an instruction that touches locals below the limit only. -/
def check (limit : Nat) (i : Instruction) (f : TypeFrame) : Option TypeFrame :=
  if i.localsEnd ≤ limit then f.step? i else none

def checkAll (limit : Nat) : List Instruction → TypeFrame → Option TypeFrame
  | [], f => some f
  | i :: is, f => (check limit i f).bind (checkAll limit is)

variable {limit : Nat} {f g : TypeFrame} {i : Instruction} {s : Signature} {l : LocalTypes}

@[simp] theorem checkAll_nil : checkAll limit [] f = some f := rfl

@[simp] theorem checkAll_cons {is : List Instruction} :
    checkAll limit (i :: is) f = (check limit i f).bind (checkAll limit is) := rfl

theorem checkAll_append {is js : List Instruction} :
    checkAll limit (is ++ js) f = (checkAll limit is f).bind (checkAll limit js) := by
  induction is generalizing f with
  | nil => rfl
  | cons i is ih =>
    rw [List.cons_append, checkAll_cons, checkAll_cons, Option.bind_assoc]
    congr 1
    funext g
    exact ih

theorem transfer?_append {rest : List LocalType} :
    transfer? ⟨s.operands.reverse ++ rest, l⟩ s = some ⟨s.result.toList ++ rest, l⟩ := by
  rw [transfer?, if_pos (List.prefix_append _ _)]
  simp only
  rw [← List.length_reverse, List.drop_left]

theorem transfer?_eq_some : f.transfer? s = some g ↔
    ∃ rest, f.stack = s.operands.reverse ++ rest ∧ g = ⟨s.result.toList ++ rest, f.locals⟩ := by
  constructor
  · intro h
    unfold transfer? at h
    split at h
    · rename_i hprefix
      obtain ⟨rest, hrest⟩ := hprefix
      obtain rfl := Option.some.inj h
      refine ⟨rest, hrest.symm, ?_⟩
      rw [← hrest, ← List.length_reverse, List.drop_left]
    · cases h
  · rintro ⟨rest, hstack, rfl⟩
    obtain ⟨stack, l⟩ := f
    obtain rfl : stack = s.operands.reverse ++ rest := hstack
    exact transfer?_append

theorem check_of_signature? (h : i.signature? = some s) : check limit i f = f.transfer? s := by
  have hlocals : i.localsEnd = 0 := by
    unfold Instruction.localsEnd
    split <;> first | cases h | rfl
  rw [check, if_pos (hlocals ▸ Nat.zero_le limit)]
  unfold step?
  split <;> first | cases h | rw [h]

/-- An instruction finds its operands on top and leaves its result there. -/
theorem check_transfer (h : i.signature? = some s) {rest : List LocalType} :
    check limit i ⟨s.operands.reverse ++ rest, l⟩ = some ⟨s.result.toList ++ rest, l⟩ := by
  rw [check_of_signature? h, transfer?_append]

theorem check_load_eq_some {t : LocalType} {n : UInt16} :
    check limit (.load t n) f = some g ↔ n.toNat + t.width ≤ limit ∧
      f.locals.typeAt n.toNat = some t ∧ g = ⟨t :: f.stack, f.locals⟩ := by
  by_cases hlimit : n.toNat + t.width ≤ limit <;>
    by_cases ht : f.locals.typeAt n.toNat = some t <;> simp [check, step?, hlimit, ht, eq_comm]

theorem check_store_eq_some {t : LocalType} {n : UInt16} :
    check limit (.store t n) f = some g ↔ n.toNat + t.width ≤ limit ∧
      ∃ rest, f.stack = t :: rest ∧ g = ⟨rest, f.locals.put n.toNat t⟩ := by
  by_cases hlimit : n.toNat + t.width ≤ limit
  · simp only [check, step?, Instruction.localsEnd_store, hlimit, if_true, true_and,
      Option.map_eq_some_iff, transfer?_eq_some]
    constructor
    · rintro ⟨-, ⟨rest, hstack, rfl⟩, rfl⟩
      exact ⟨rest, hstack, rfl⟩
    · rintro ⟨rest, hstack, rfl⟩
      exact ⟨_, ⟨rest, hstack, rfl⟩, rfl⟩
  · simp [check, hlimit]

theorem check_increment_eq_some {n : UInt16} {delta : Int16} :
    check limit (.increment n delta) f = some g ↔ n.toNat + 1 ≤ limit ∧
      f.locals.typeAt n.toNat = some .int ∧ g = f := by
  by_cases hlimit : n.toNat + 1 ≤ limit <;>
    by_cases ht : f.locals.typeAt n.toNat = some .int <;> simp [check, step?, hlimit, ht, eq_comm]

end TypeFrame

end BytecodeMutation
