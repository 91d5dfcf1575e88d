import BytecodeMutation.Proofs.Operator.Candidates
import BytecodeMutation.Proofs.Typing.Frame

/-! The types that the code of the operators works on. Code that does not depend on the locals in
use does to a frame what its instruction does. -/

namespace BytecodeMutation

open Instruction TypeFrame

/-- Wherever the instruction checks, so does the code, and leaves the same frame. -/
def TypesLike (limit : Nat) (i : Instruction) (code : List Instruction) : Prop :=
  ∀ f g, check limit i f = some g → checkAll limit code f = some g

variable {limit : Nat} {i : Instruction} {code : List Instruction}

theorem TypesLike.single {j : Instruction}
    (h : ∀ f, check limit j f = check limit i f) : TypesLike limit i [j] := by
  intro f g hi
  rw [checkAll_cons, h, hi]
  rfl

/-! ### Substitution and constants -/

theorem Substitution.check_of_substitute? {s : Substitution} {j : Instruction}
    (h : s.substitute? i = some j) (f : TypeFrame) : check limit j f = check limit i f := by
  cases substitute?_eq_some_iff.1 h <;> rfl

namespace Literal

def kind : Literal → LocalType
  | int _ => .int
  | long _ => .long
  | float _ => .float
  | double _ => .double

theorem kind_perturb (p : Perturbation) (v : Literal) : (v.perturb p).kind = v.kind := by
  cases p <;> cases v <;> rfl

theorem signature?_of_pushes {v : Literal} (h : i.Pushes v) :
    i.signature? = some ⟨[], some v.kind⟩ := by
  cases h <;> rfl

end Literal

theorem Perturbation.typesLike {v : Literal} (h : i.Pushes v) (p : Perturbation) :
    TypesLike limit i [(v.perturb p).materialize] := by
  refine .single fun f => ?_
  have hpushes := (v.perturb p).pushes_materialize
  rw [check_of_signature? (Literal.signature?_of_pushes hpushes), Literal.kind_perturb,
    check_of_signature? (Literal.signature?_of_pushes h)]

/-! ### Operands and unary steps -/

variable {rest : List LocalType} {l : LocalTypes} {f g : TypeFrame}

theorem check_arith {op : ArithmeticOp} {t : NumericType} :
    check limit (.arith op t) ⟨t.toLocal :: t.toLocal :: rest, l⟩ = some ⟨t.toLocal :: rest, l⟩ :=
  check_transfer (s := ⟨[t.toLocal, t.toLocal], some t.toLocal⟩) rfl

theorem check_neg {t : NumericType} :
    check limit (.neg t) ⟨t.toLocal :: rest, l⟩ = some ⟨t.toLocal :: rest, l⟩ :=
  check_transfer (s := ⟨[t.toLocal], some t.toLocal⟩) rfl

theorem check_arith_eq_some {op : ArithmeticOp} {t : NumericType}
    (h : check limit (.arith op t) f = some g) :
    ∃ rest, f.stack = t.toLocal :: t.toLocal :: rest ∧ g = ⟨t.toLocal :: rest, f.locals⟩ := by
  rw [check_of_signature? rfl] at h
  exact transfer?_eq_some.1 h

theorem RemovedOperand.typesLike (removed : RemovedOperand) (op : ArithmeticOp)
    (t : NumericType) : TypesLike limit (.arith op t) (removed.sequence t.width) := by
  rintro ⟨stack, l⟩ g h
  obtain ⟨rest, hstack, rfl⟩ := check_arith_eq_some h
  obtain rfl : stack = t.toLocal :: t.toLocal :: rest := hstack
  cases removed <;> cases t <;> rfl

namespace UnaryStep

theorem signature?_pushOne (n : NumericType) :
    (pushOne n).signature? = some ⟨[], some n.toLocal⟩ := by
  cases n <;> rfl

theorem check_pushOne {n : NumericType} :
    check limit (pushOne n) ⟨rest, l⟩ = some ⟨n.toLocal :: rest, l⟩ :=
  check_transfer (signature?_pushOne n)

theorem check_load {t : LocalType} {index : UInt16} (hlimit : index.toNat + t.width ≤ limit)
    (ht : l.typeAt index.toNat = some t) :
    check limit (.load t index) ⟨rest, l⟩ = some ⟨t :: rest, l⟩ :=
  check_load_eq_some.2 ⟨hlimit, ht, rfl⟩

/-- A value that is stored where it came from leaves the locals as they are. -/
theorem check_store_back {t : LocalType} {index : UInt16}
    (hlimit : index.toNat + t.width ≤ limit) (ht : l.typeAt index.toNat = some t) :
    check limit (.store t index) ⟨t :: rest, l⟩ = some ⟨rest, l⟩ :=
  check_store_eq_some.2 ⟨hlimit, rest, rfl, by rw [LocalTypes.put_self ht]⟩

theorem typesLike_stepAndLoad (n : NumericType) (index : UInt16) (up : Bool) :
    TypesLike limit (.load n.toLocal index) (stepAndLoad n index up) := by
  rintro ⟨stack, l⟩ g h
  obtain ⟨hlimit, ht, rfl⟩ := check_load_eq_some.1 h
  have hload : ∀ rest,
      check limit (.load n.toLocal index) ⟨rest, l⟩ = some ⟨n.toLocal :: rest, l⟩ :=
    fun rest => check_load hlimit ht
  have hstore : ∀ rest, check limit (.store n.toLocal index) ⟨n.toLocal :: rest, l⟩ =
      some ⟨rest, l⟩ := fun rest => check_store_back hlimit ht
  cases n
  case int =>
    have hstep : ∀ delta, check limit (.increment index delta) ⟨stack, l⟩ = some ⟨stack, l⟩ :=
      fun delta => check_increment_eq_some.2 ⟨hlimit, ht, rfl⟩
    simp only [stepAndLoad, checkAll_cons, hstep, Option.bind_some]
    change (check limit (.load NumericType.int.toLocal index) ⟨stack, l⟩).bind _ = _
    rw [hload]
    rfl
  all_goals
    simp only [stepAndLoad, checkAll_cons, hload, check_pushOne, check_arith, hstore,
      Option.bind_some, checkAll_nil]

theorem Rewrites.typesLike (h : Rewrites i code) : TypesLike limit i code := by
  cases h with
  | increment index delta delta' => exact .single fun f => rfl
  | stepped n index up => exact typesLike_stepAndLoad n index up
  | negatedIncrement index delta =>
    rintro ⟨stack, l⟩ g h
    obtain ⟨hlimit, ht, -⟩ := check_increment_eq_some.1 h
    have hneg : check limit (.neg .int) ⟨.int :: stack, l⟩ = some ⟨.int :: stack, l⟩ := check_neg
    have hlimit' : index.toNat + LocalType.int.width ≤ limit := hlimit
    simp only [checkAll_cons, check_load hlimit' ht, hneg, check_store_back hlimit' ht, h,
      Option.bind_some, checkAll_nil]
  | negatedLoad n index =>
    rintro ⟨stack, l⟩ g h
    obtain ⟨hlimit, ht, rfl⟩ := check_load_eq_some.1 h
    simp only [checkAll_cons, h, check_neg, Option.bind_some, checkAll_nil]
  | negatedStore n index =>
    rintro ⟨stack, l⟩ g h
    obtain ⟨-, rest, hstack, rfl⟩ := check_store_eq_some.1 h
    obtain rfl : stack = n.toLocal :: rest := hstack
    simp only [checkAll_cons, check_neg, h, Option.bind_some, checkAll_nil]

end UnaryStep

/-! ### Calls -/

/-- A call is checked by its kind and its descriptor. -/
theorem check_invoke_congr {m m' : MethodRef} (hkind : m'.kind = m.kind)
    (hdescriptor : m'.descriptor = m.descriptor) (f : TypeFrame) :
    check limit (.invoke m') f = check limit (.invoke m) f := by
  simp only [check, step?, signature?, hkind, hdescriptor]
  rfl

/-- A candidate emits code that works on the types of its instruction, whatever the locals in use,
or redirects a call. -/
theorem Operator.typesLike_or_redirects {o : Operator} {context : InstructionContext}
    {r : Replacement} (h : o.candidate? context i = some r) :
    (∃ code, (∀ a, r.emission.emit a = (.ok code, a)) ∧ ∀ limit, TypesLike limit i code) ∨
      ∃ call record, i = .invoke call ∧ record.descriptor.ret = call.descriptor.ret ∧
        r.emission = .redirect call (CallMode.target call record) := by
  cases o with
  | substitution s =>
    obtain ⟨j, hj, hemission⟩ := Substitution.candidate?_eq_some h
    exact .inl ⟨[j], fun a => by rw [hemission]; rfl,
      fun limit => .single (Substitution.check_of_substitute? hj)⟩
  | elimination removed =>
    obtain ⟨op, t, rfl, hemission⟩ := RemovedOperand.candidate?_eq_some h
    refine .inl ⟨removed.sequence t.width, fun a => ?_, fun limit => removed.typesLike op t⟩
    rw [hemission, Emission.emit]
    simp only [removed.prove_sequence, ok_map]
  | perturbation p =>
    obtain ⟨v, hv, -, hemission⟩ := Perturbation.candidate?_eq_some h
    exact .inl ⟨_, fun a => by rw [hemission]; rfl, fun limit => Perturbation.typesLike hv p⟩
  | unaryStep s =>
    obtain ⟨code, hemission, hcode⟩ := UnaryStep.candidate?_rewrites h
    exact .inl ⟨code, fun a => by rw [hemission]; rfl, fun limit => hcode.typesLike⟩
  | redirection mode =>
    obtain ⟨call, catalog, record, rfl, -, -, hfits, rfl⟩ := CallMode.candidate?_eq_some h
    cases mode with
    | sameParameters =>
      simp only [SignatureRecord.fits, Bool.and_eq_true, beq_iff_eq] at hfits
      have hdescriptor : record.descriptor = call.descriptor :=
        MethodDescriptor.eq_of_parts hfits.2.1 hfits.1.2
      exact .inl ⟨[.invoke (CallMode.target call record)], fun a => rfl,
        fun limit => .single (check_invoke_congr rfl hdescriptor)⟩
    | sameName =>
      simp only [SignatureRecord.fits, Bool.and_eq_true, beq_iff_eq] at hfits
      exact .inr ⟨call, record, rfl, hfits.1.2, rfl⟩

end BytecodeMutation
