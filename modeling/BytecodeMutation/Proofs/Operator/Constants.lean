import BytecodeMutation.Proofs.Operator.Candidates

/-! Constants and the code for them. Several instructions can push the same number. The one that is
made for a number is legal, and every other legal one needs more bytes for the number. A
perturbation replaces a constant by the code of the perturbed number exactly if the number is
another one. -/

namespace BytecodeMutation

/-! ### Code for a number -/

namespace Instruction

theorem Pushes.functional {i : Instruction} {v w : Literal} (hv : i.Pushes v) (hw : i.Pushes w) :
    v = w :=
  Option.some.inj ((pushes_iff.1 hv).symm.trans (pushes_iff.1 hw))

/-- Whether an instruction exists as code. There are short forms for a few numbers only, and none
for a negative zero. -/
def IsCode : Instruction → Prop
  | intConst v => -1 ≤ v.toInt ∧ v.toInt ≤ 5
  | longConst v => v = 0 ∨ v = 1
  | floatConst v => v = .zero ∨ v = .one ∨ v = .two
  | doubleConst v => v = .zero ∨ v = .one
  | _ => True

/-- The bytes that hold the number which an instruction pushes: none for the short forms, those
after the opcode, or those of an entry in the table of constants. -/
def numberBytes : Instruction → Nat
  | bytePush _ => 1
  | shortPush _ => 2
  | loadConst c => 4 * c.type.width
  | _ => 0

end Instruction

namespace Literal

/-- Of all code that pushes the number, this instruction is the one with the fewest bytes. -/
structure IsCompact (v : Literal) (i : Instruction) : Prop where
  pushes : i.Pushes v
  isCode : i.IsCode
  least : ∀ j : Instruction, j.Pushes v → j.IsCode → j ≠ i → i.numberBytes < j.numberBytes

variable {v : Int32} {j : Instruction}

theorem pushes_int (h : j.Pushes (int v)) :
    j = .intConst v ∨ (∃ b : Int8, b.toInt32 = v ∧ j = .bytePush b) ∨
      (∃ s : Int16, s.toInt32 = v ∧ j = .shortPush s) ∨ j = .loadConst (.int v) := by
  cases h with
  | intConst => exact .inl rfl
  | bytePush b => exact .inr (.inl ⟨b, rfl, rfl⟩)
  | shortPush s => exact .inr (.inr (.inl ⟨s, rfl, rfl⟩))
  | intEntry => exact .inr (.inr (.inr rfl))

theorem isCompact_intConst (h : -1 ≤ v.toInt ∧ v.toInt ≤ 5) :
    (int v).IsCompact (.intConst v) := by
  refine ⟨.intConst v, h, fun j hj _ hne => ?_⟩
  rcases pushes_int hj with rfl | ⟨b, -, rfl⟩ | ⟨s, -, rfl⟩ | rfl
  · exact absurd rfl hne
  all_goals simp [Instruction.numberBytes, Constant.type, ValueType.width]

theorem isCompact_bytePush {b : Int8} (hb : b.toInt32 = v)
    (h : ¬ (-1 ≤ v.toInt ∧ v.toInt ≤ 5)) : (int v).IsCompact (.bytePush b) := by
  subst hb
  refine ⟨.bytePush b, trivial, fun j hj hcode hne => ?_⟩
  rcases pushes_int hj with rfl | ⟨c, hc, rfl⟩ | ⟨s, -, rfl⟩ | rfl
  · exact absurd hcode h
  · rw [← Int32.toInt_inj, Int8.toInt_toInt32, Int8.toInt_toInt32, Int8.toInt_inj] at hc
    exact absurd (congrArg Instruction.bytePush hc) hne
  all_goals simp [Instruction.numberBytes, Constant.type, ValueType.width]

theorem isCompact_shortPush {s : Int16} (hs : s.toInt32 = v)
    (h : ¬ (-128 ≤ v.toInt ∧ v.toInt ≤ 127)) : (int v).IsCompact (.shortPush s) := by
  subst hs
  refine ⟨.shortPush s, trivial, fun j hj hcode hne => ?_⟩
  rcases pushes_int hj with rfl | ⟨b, hb, rfl⟩ | ⟨t, ht, rfl⟩ | rfl
  · rw [Instruction.IsCode] at hcode
    omega
  · rw [← hb, Int8.toInt_toInt32] at h
    have := b.le_toInt
    have := b.toInt_lt
    omega
  · rw [← Int32.toInt_inj, Int16.toInt_toInt32, Int16.toInt_toInt32, Int16.toInt_inj] at ht
    exact absurd (congrArg Instruction.shortPush ht) hne
  · simp [Instruction.numberBytes, Constant.type, ValueType.width]

theorem isCompact_intEntry (h : ¬ (-32768 ≤ v.toInt ∧ v.toInt ≤ 32767)) :
    (int v).IsCompact (.loadConst (.int v)) := by
  refine ⟨.intEntry v, trivial, fun j hj hcode hne => ?_⟩
  rcases pushes_int hj with rfl | ⟨b, rfl, rfl⟩ | ⟨s, rfl, rfl⟩ | rfl
  · rw [Instruction.IsCode] at hcode
    omega
  · rw [Int8.toInt_toInt32] at h
    have := b.le_toInt
    have := b.toInt_lt
    omega
  · rw [Int16.toInt_toInt32] at h
    have := s.le_toInt
    have := s.toInt_lt
    omega
  · exact absurd rfl hne

theorem isCompact_materialize_int (v : Int32) : (int v).IsCompact (int v).materialize := by
  simp only [materialize]
  split
  · exact isCompact_intConst ‹_›
  split
  · exact isCompact_bytePush (toInt32_ofInt_int8 ‹_›) ‹_›
  split
  · exact isCompact_shortPush (toInt32_ofInt_int16 ‹_›) ‹_›
  · exact isCompact_intEntry ‹_›

/-- Where a number has a short form and an entry, the short form is the compact one if it is
code. -/
theorem isCompact_of_two {v : Literal} {short entry : Instruction} {p : Prop} [Decidable p]
    (hshort : short.Pushes v) (hentry : entry.Pushes v)
    (hall : ∀ j : Instruction, j.Pushes v → j = short ∨ j = entry) (hcode : short.IsCode ↔ p)
    (hcode' : entry.IsCode) (hbytes : short.numberBytes < entry.numberBytes) :
    v.IsCompact (if p then short else entry) := by
  split
  · rename_i hp
    refine ⟨hshort, hcode.2 hp, fun j hj _ hne => ?_⟩
    rcases hall j hj with rfl | rfl
    · exact absurd rfl hne
    · exact hbytes
  · rename_i hp
    refine ⟨hentry, hcode', fun j hj hj' hne => ?_⟩
    rcases hall j hj with rfl | rfl
    · exact absurd (hcode.1 hj') hp
    · exact absurd rfl hne

/-- The code that is made for a number is the compact one. -/
theorem isCompact_materialize (v : Literal) : v.IsCompact v.materialize := by
  cases v with
  | int v => exact isCompact_materialize_int v
  | long v =>
    refine isCompact_of_two (.longConst v) (.longEntry v) ?_ Iff.rfl trivial (Nat.zero_lt_succ 7)
    rintro j (_ | _)
    · exact .inl rfl
    · exact .inr rfl
  | float v =>
    refine isCompact_of_two (.floatConst v) (.floatEntry v) ?_ Iff.rfl trivial (Nat.zero_lt_succ 3)
    rintro j (_ | _)
    · exact .inl rfl
    · exact .inr rfl
  | double v =>
    refine isCompact_of_two (.doubleConst v) (.doubleEntry v) ?_ Iff.rfl trivial
      (Nat.zero_lt_succ 7)
    rintro j (_ | _)
    · exact .inl rfl
    · exact .inr rfl

end Literal

/-! ### Perturbations -/

namespace Perturbation

/-- What the perturbation makes of an integer, were integers not bounded. -/
def unbounded : Perturbation → Int → Int
  | addOne, n => n + 1
  | subOne, n => n - 1
  | negate, n => -n
  | replaceOne, _ => 1
  | replaceZero, _ => 0

/-- Ints are perturbed modulo `2 ^ 32`, with a sign. -/
theorem perturb_int (p : Perturbation) (x : Int32) :
    ∃ y, (Literal.int x).perturb p = .int y ∧ y.toInt = (p.unbounded x.toInt).bmod (2 ^ 32) := by
  cases p with
  | addOne => exact ⟨x + 1, rfl, Int32.toInt_add x 1⟩
  | subOne => exact ⟨x - 1, rfl, Int32.toInt_sub x 1⟩
  | negate => exact ⟨-x, rfl, Int32.toInt_neg x⟩
  | replaceOne => exact ⟨1, rfl, rfl⟩
  | replaceZero => exact ⟨0, rfl, rfl⟩

/-- Longs are perturbed modulo `2 ^ 64`, with a sign. -/
theorem perturb_long (p : Perturbation) (x : Int64) :
    ∃ y, (Literal.long x).perturb p = .long y ∧ y.toInt = (p.unbounded x.toInt).bmod (2 ^ 64) := by
  cases p with
  | addOne => exact ⟨x + 1, rfl, Int64.toInt_add x 1⟩
  | subOne => exact ⟨x - 1, rfl, Int64.toInt_sub x 1⟩
  | negate => exact ⟨-x, rfl, Int64.toInt_neg x⟩
  | replaceOne => exact ⟨1, rfl, rfl⟩
  | replaceZero => exact ⟨0, rfl, rfl⟩

theorem isSome_candidate? (p : Perturbation) {i : Instruction} {v : Literal} (h : i.Pushes v) :
    (p.candidate? i).isSome ↔ v.perturb p ≠ v := by
  unfold candidate?
  rw [Instruction.pushes_iff.1 h]
  by_cases hsame : v.perturb p = v <;> simp [hsame]

/-- A constant is perturbed exactly if that gives another number. The code is one instruction that
pushes the perturbed number, the most compact one for it, and it takes as much room on the stack as
the constant did. Integers are perturbed with a sign and modulo their range. -/
theorem perturbed_constant_is_compact {i : Instruction} {v : Literal} (h : i.Pushes v)
    (p : Perturbation) (context : InstructionContext) (a : LocalAllocator) :
    (((Operator.perturbation p).candidate? context i).isSome ↔ v.perturb p ≠ v) ∧
      (∀ r, (Operator.perturbation p).candidate? context i = some r → ∃ j,
        r.emission.emit a = (.ok [j], a) ∧ Literal.ofInstruction? j = some (v.perturb p) ∧
        (v.perturb p).IsCompact j ∧ j.stackEffect = i.stackEffect) ∧
      (∀ x, v = .int x → ∃ y, v.perturb p = .int y ∧
        y.toInt = (p.unbounded x.toInt).bmod (2 ^ 32)) ∧
      ∀ x, v = .long x → ∃ y, v.perturb p = .long y ∧
        y.toInt = (p.unbounded x.toInt).bmod (2 ^ 64) := by
  refine ⟨p.isSome_candidate? h, fun r hr => ?_, ?_, ?_⟩
  · obtain ⟨v', hv', -, hemission⟩ := candidate?_eq_some hr
    obtain rfl : v' = v := hv'.functional h
    have hcompact := Literal.isCompact_materialize (v'.perturb p)
    have hpush := Literal.isPush_of_pushes hcompact.pushes
    refine ⟨_, by rw [hemission]; rfl, Instruction.pushes_iff.1 hcompact.pushes, hcompact, ?_⟩
    rw [hpush.1, Literal.width_perturb, (Literal.isPush_of_pushes h).1]
  · rintro x rfl
    exact p.perturb_int x
  · rintro x rfl
    exact p.perturb_long x

/-- The sum of one and the greatest number of one byte needs two. -/
theorem byte_limit_is_passed :
    Instruction.Pushes (.bytePush 127) (.int 127) ∧
      ∃ r j, (Operator.perturbation .addOne).candidate? ⟨default, none⟩ (.bytePush 127) = some r ∧
        r.emission.emit ⟨0⟩ = (.ok [j], ⟨0⟩) ∧ Literal.ofInstruction? j = some (.int 128) ∧
        (Literal.int 128).IsCompact j ∧ j.stackEffect = ⟨0, 1⟩ := by
  have hpushes : Instruction.Pushes (.bytePush 127) (.int 127) := .bytePush 127
  obtain ⟨hoffered, hcode, -⟩ :=
    perturbed_constant_is_compact hpushes .addOne ⟨default, none⟩ ⟨0⟩
  obtain ⟨r, hr⟩ := Option.isSome_iff_exists.1 (hoffered.2 (by decide))
  obtain ⟨j, hemit, hread, hcompact, heffect⟩ := hcode r hr
  exact ⟨hpushes, r, j, hr, hemit, hread, hcompact, heffect⟩

end Perturbation

end BytecodeMutation
