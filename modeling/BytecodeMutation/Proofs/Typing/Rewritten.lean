import BytecodeMutation.Proofs.Engine.SingleFault
import BytecodeMutation.Proofs.Operator.Arguments
import BytecodeMutation.Proofs.Typing.Candidates
import BytecodeMutation.Proofs.Typing.Machine

/-! The types that a redirected call works on. Its code is run on default values, which takes the
old arguments to the new ones whatever the types below them; so every candidate of every operator
leaves the types of its instruction. -/

namespace BytecodeMutation

open TypeFrame Machine Redirection

/-! ### Calls -/

/-- The types of parameters, of which none is void. -/
theorem mapM_local?_eq_some {ts : List ValueType} {ks : List LocalType} :
    ts.mapM ValueType.local? = some ks ↔ List.Forall₂ (fun t k => t.local? = some k) ts ks := by
  induction ts generalizing ks with
  | nil => cases ks <;> simp
  | cons t ts ih =>
    rw [List.mapM_cons]
    cases ht : t.local? <;> cases ks <;> cases hts : ts.mapM ValueType.local? <;>
      simp_all [List.forall₂_cons]

/-- The receiver of a call, which lies below the arguments. -/
def MethodRef.receiver (m : MethodRef) : List LocalType :=
  if m.kind.hasReceiver then [.reference] else []

theorem check_invoke_eq_some {m : MethodRef} {limit : Nat} {f g : TypeFrame} :
    check limit (.invoke m) f = some g ↔ ∃ params rest,
      List.Forall₂ (fun t k => t.local? = some k) m.descriptor.params params ∧
      f.stack = params.reverse ++ (m.receiver ++ rest) ∧
      g = ⟨m.descriptor.ret.local?.toList ++ rest, f.locals⟩ := by
  have hreceiver : m.receiver.reverse = m.receiver := by
    unfold MethodRef.receiver
    split <;> rfl
  cases hparams : m.descriptor.params.mapM ValueType.local? with
  | none =>
    refine iff_of_false ?_ ?_
    · simp [check, step?, Instruction.signature?, hparams, rearrange?, Instruction.forms]
    · rintro ⟨params, rest, htypes, -⟩
      rw [mapM_local?_eq_some.2 htypes] at hparams
      cases hparams
  | some params =>
    have hsignature : (Instruction.invoke m).signature? =
        some ⟨m.receiver ++ params, m.descriptor.ret.local?⟩ := by
      rw [Instruction.signature?, hparams]
      rfl
    rw [check_of_signature? hsignature, transfer?_eq_some]
    simp only [List.reverse_append, hreceiver, List.append_assoc]
    constructor
    · rintro ⟨rest, hstack, rfl⟩
      exact ⟨params, rest, mapM_local?_eq_some.1 hparams, hstack, rfl⟩
    · rintro ⟨params', rest, htypes, hstack, rfl⟩
      obtain rfl := Option.some.inj (hparams.symm.trans (mapM_local?_eq_some.2 htypes))
      exact ⟨rest, hstack, rfl⟩

/-- The redirected call checks where the call does, and leaves the same result on the same rest. -/
theorem check_redirected {call target : MethodRef} (hkind : target.kind = call.kind)
    (hret : target.descriptor.ret = call.descriptor.ret) {a b : LocalAllocator}
    {code : List Instruction} (hemit : (Emission.redirect call target).emit a = (.ok code, b))
    {f g : TypeFrame} (hparted : f.locals.PartedAt a.next.toNat)
    (h : check a.next.toNat (.invoke call) f = some g) :
    ∃ g', checkAll b.next.toNat code f = some g' ∧ g'.stack = g.stack ∧
      ∀ n < a.next.toNat, g'.locals.typeAt n = g.locals.typeAt n := by
  obtain ⟨slots, hlength, hvoid, rfl, htiles, hnext⟩ := Emission.emit_redirect_ok hemit
  obtain ⟨params, rest, htypes, hstack, rfl⟩ := check_invoke_eq_some.1 h
  have hfst : (target.descriptor.params.zip slots).map Prod.fst = target.descriptor.params :=
    List.map_fst_zip (by omega)
  have hargs : List.Forall₂ Fits call.descriptor.params (params.map Value.zero) := by
    rw [List.forall₂_map_right_iff]
    exact htypes.imp fun t k hk => by rwa [Fits, Value.kind_zero]
  have hzeros : f.zeros = ⟨(params.map Value.zero).reverse ++
      (call.receiver ++ rest).map Value.zero, f.locals.zeros⟩ := by
    rw [TypeFrame.zeros, hstack, List.map_append, List.map_reverse]
  obtain ⟨l', hrun, -, hagree⟩ := run_prologue hargs htiles (by rwa [hfst])
    ((call.receiver ++ rest).map Value.zero) f.locals.zeros
  rw [hfst, ← hzeros] at hrun
  have hbelow : ∀ j ∈ prologue call.descriptor.params (target.descriptor.params.zip slots),
      j.localsEnd ≤ b.next.toNat := by
    intro j hj
    rw [hnext, MethodDescriptor.argumentSlots_eq_sum, ← sum_map_zip hlength]
    refine (plainBelow_of_mem_prologue htiles (fun q hq hq' => ?_) hj).2
    exact hvoid (hq' ▸ (List.of_mem_zip hq).1)
  have hchecked := checkAll_types hbelow hrun
  rw [f.types_zeros, State.types, List.map_append, List.map_reverse, map_kind_zero] at hchecked
  have hreceiver : target.receiver = call.receiver := by
    simp only [MethodRef.receiver, hkind]
  have hfits := fits_passed hargs hvoid
  have hcall : check b.next.toNat (.invoke target)
      ⟨((passed call.descriptor.params target.descriptor.params (params.map Value.zero)).map
        Value.kind).reverse ++ (call.receiver ++ rest), l'.types⟩ =
      some ⟨call.descriptor.ret.local?.toList ++ rest, l'.types⟩ :=
    check_invoke_eq_some.2 ⟨_, rest, List.forall₂_map_right_iff.2 hfits, by rw [hreceiver],
      by rw [hret]⟩
  refine ⟨⟨call.descriptor.ret.local?.toList ++ rest, l'.types⟩, ?_, rfl,
    fun n hn => LocalTypes.typeAt_of_agree hagree hparted hn⟩
  rw [checkAll_append, hchecked, Option.bind_some, checkAll_cons, hcall]
  rfl

/-! ### All operators -/

/-- Every candidate keeps the types of the frame. Where the instruction checks, and no value reaches
from the locals of the method beyond them, the code checks instruction by instruction with the fresh
locals, and leaves the same types on the stack and in the locals of the method. -/
theorem candidate_keeps_types {o : Operator} {context : InstructionContext} {i : Instruction}
    {r : Replacement} (hcandidate : o.candidate? context i = some r) {code : List Instruction}
    {b : LocalAllocator}
    (hemit : r.emission.emit ⟨context.method.maxLocals⟩ = (.ok code, b)) {f g : TypeFrame}
    (hparted : f.locals.PartedAt context.method.maxLocals.toNat)
    (h : check context.method.maxLocals.toNat i f = some g) :
    ∃ g', checkAll b.next.toNat code f = some g' ∧ g'.stack = g.stack ∧
      ∀ n < context.method.maxLocals.toNat, g'.locals.typeAt n = g.locals.typeAt n := by
  rcases Operator.typesLike_or_redirects hcandidate with
    ⟨code', hemit', hcode⟩ | ⟨call, record, rfl, hret, hemission⟩
  · rw [hemit'] at hemit
    obtain ⟨hsame, rfl⟩ := Prod.mk.inj hemit
    obtain rfl := Except.ok.inj hsame
    exact ⟨g, hcode _ f g h, rfl, fun n _ => rfl⟩
  · rw [hemission] at hemit
    have hkind : (CallMode.target call record).kind = call.kind := rfl
    exact check_redirected hkind hret hemit hparted h

namespace Sample

/-- The frame before the call in the sample method: its arguments above an object, and its two
parameters in the locals. -/
def shiftFrame : TypeFrame :=
  ⟨[.long, .int, .reference],
    ⟨fun n => if n = 0 then some .int else if n = 1 then some .long else none, by
      intro n t ht hwide
      split at ht
      · obtain rfl := Option.some.inj ht
        cases hwide
      · rw [if_neg (by omega), if_neg (by omega)]⟩⟩

end Sample

open Sample in
theorem redirected_shift_keeps_types :
    ∃ r code b, (Operator.redirection .sameName).candidate? ⟨caller, redirecting.catalog⟩
        (.invoke shift) = some r ∧
      r.emission.emit ⟨caller.maxLocals⟩ = (.ok code, b) ∧ b.next = 7 ∧
      shiftFrame.locals.PartedAt caller.maxLocals.toNat ∧
      check caller.maxLocals.toNat (.invoke shift) shiftFrame =
        some { shiftFrame with stack := [.int, .reference] } ∧
      ∃ g', checkAll b.next.toNat code shiftFrame = some g' ∧ g'.stack = [.int, .reference] ∧
        ∀ n < caller.maxLocals.toNat, g'.locals.typeAt n = shiftFrame.locals.typeAt n := by
  have hcandidate : (Operator.redirection .sameName).candidate? ⟨caller, redirecting.catalog⟩
      (.invoke shift) = some (CallMode.sameName.redirect shift (CallMode.target shift wideShift)) := by
    decide +kernel
  have hemit : (Emission.redirect shift (CallMode.target shift wideShift)).emit ⟨3⟩ =
      (.ok [.pop2, .doubleConst .zero, .store .double 4, .store .int 3, .floatConst .zero,
        .store .float 6, .load .int 3, .load .double 4, .load .float 6,
        .invoke (CallMode.target shift wideShift)], ⟨7⟩) := rfl
  have hparted : shiftFrame.locals.PartedAt caller.maxLocals.toNat := by
    intro n hn t ht
    change (if n = 0 then some LocalType.int else if n = 1 then some .long else none) = some t at ht
    split at ht
    · obtain rfl := Option.some.inj ht
      exact hn
    · split at ht
      · rename_i hone
        obtain rfl := Option.some.inj ht
        rw [hone]
        decide
      · cases ht
  have hcheck : check caller.maxLocals.toNat (.invoke shift) shiftFrame =
      some { shiftFrame with stack := [.int, .reference] } := rfl
  exact ⟨_, _, _, hcandidate, hemit, rfl, hparted, hcheck,
    candidate_keeps_types hcandidate hemit hparted hcheck⟩

end BytecodeMutation
