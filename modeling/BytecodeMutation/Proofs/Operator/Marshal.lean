import BytecodeMutation.Proofs.Operator.FreshLocals
import BytecodeMutation.Proofs.Refusal

/-! The code that turns the arguments of one call into those of another. It exists whenever the new
call has no void parameter and its slots are free, and then it has one shape: the old arguments come
off the stack one by one, the additional parameters get their default values, and all parameters are
loaded in order. -/

namespace BytecodeMutation

namespace ValueType

/-- The kind of local for a value of the type, where void counts as a reference. -/
def kind (t : ValueType) : LocalType := t.local?.getD .reference

/-- The instruction that pushes the default value, where void counts as a reference. -/
def zero (t : ValueType) : Instruction := t.pushDefault?.getD .nullConst

variable {t : ValueType}

theorem local?_eq_kind (h : t ≠ void) : t.local? = some t.kind := by
  cases t <;> first | rfl | exact absurd rfl h

theorem pushDefault?_eq_zero (h : t ≠ void) : t.pushDefault? = some t.zero := by
  cases t <;> first | rfl | exact absurd rfl h

theorem width_kind (h : t ≠ void) : t.kind.width = t.width := by
  cases t <;> first | rfl | exact absurd rfl h

theorem stackEffect_zero (h : t ≠ void) : t.zero.stackEffect = ⟨0, t.width⟩ := by
  cases t <;> first | rfl | exact absurd rfl h

end ValueType

namespace Redirection

/-! ### Code in parts -/

theorem concat_ok {α : Type} {f : α → Except BodyError (List Instruction)}
    {g : α → List Instruction} {xs : List α} (h : ∀ x ∈ xs, f x = .ok (g x)) :
    concat (xs.map f) = .ok (xs.flatMap g) := by
  induction xs with
  | nil => rfl
  | cons x xs ih =>
    rw [List.map_cons, concat, h x List.mem_cons_self, ok_bind,
      ih fun y hy => h y (List.mem_cons_of_mem x hy)]
    rfl

/-- If all refusals of the parts are the same, that is the only refusal of the whole. -/
theorem concat_of_refusals {e : BodyError} {parts : List (Except BodyError (List Instruction))}
    (h : ∀ part ∈ parts, part = .error e ∨ ∃ code, part = .ok code) :
    (.error e ∈ parts ∧ concat parts = .error e) ∨ ∃ code, .error e ∉ parts ∧
      concat parts = .ok code := by
  induction parts with
  | nil => exact .inr ⟨[], List.not_mem_nil, rfl⟩
  | cons part parts ih =>
    rcases h part List.mem_cons_self with rfl | ⟨code, rfl⟩
    · exact .inl ⟨List.mem_cons_self, rfl⟩
    · rcases ih fun p hp => h p (List.mem_cons_of_mem _ hp) with ⟨hmem, hrest⟩ | ⟨rest, hmem, hrest⟩
      · exact .inl ⟨List.mem_cons_of_mem _ hmem, by rw [concat, ok_bind, hrest, error_bind]⟩
      · refine .inr ⟨code ++ rest, ?_, by rw [concat, ok_bind, hrest]; rfl⟩
        intro he
        rcases List.mem_cons.1 he with he | he
        · cases he
        · exact hmem he

theorem ok_of_concat_ok {parts : List (Except BodyError (List Instruction))}
    {code : List Instruction} (h : concat parts = .ok code) :
    ∀ part ∈ parts, ∃ c, part = .ok c := by
  induction parts generalizing code with
  | nil => exact nofun
  | cons part parts ih =>
    obtain ⟨c, hc, h⟩ := bind_eq_ok.1 h
    obtain ⟨rest, hrest, -⟩ := bind_eq_ok.1 h
    intro q hq
    rcases List.mem_cons.1 hq with rfl | hq
    · exact ⟨c, hc⟩
    · exact ih hrest q hq

/-! ### Old and new parameters -/

/-- Every element of a list, with the one at its position in another list. -/
def pairUp {α β : Type} : List α → List β → List (α × Option β)
  | [], _ => []
  | a :: as, [] => (a, none) :: pairUp as []
  | a :: as, b :: bs => (a, some b) :: pairUp as bs

theorem map_zipIdx_eq_pairUp {α β : Type} (as : List α) (bs : List β) (k : Nat) :
    ((as.zipIdx k).map fun (a, i) => (a, bs[i]?)) = pairUp as (bs.drop k) := by
  induction as generalizing k with
  | nil => rfl
  | cons a as ih =>
    rw [List.zipIdx_cons, List.map_cons, ih]
    by_cases hk : k < bs.length
    · simp only [List.drop_eq_getElem_cons hk, pairUp, List.getElem?_eq_getElem hk]
    · have hlen : bs.length ≤ k := by omega
      simp only [List.drop_eq_nil_of_le hlen, List.drop_eq_nil_of_le (Nat.le_succ_of_le hlen),
        pairUp, List.getElem?_eq_none hlen]

theorem mem_of_mem_pairUp {α β : Type} {as : List α} {bs : List β} {a : α} {p : Option β}
    (h : (a, p) ∈ pairUp as bs) : a ∈ as ∧ ∀ b, p = some b → b ∈ bs := by
  induction as generalizing bs with
  | nil => cases h
  | cons x as ih =>
    cases bs with
    | nil =>
      rcases List.mem_cons.1 h with h | h
      · obtain ⟨rfl, rfl⟩ := Prod.mk.inj h
        exact ⟨List.mem_cons_self, nofun⟩
      · exact ⟨List.mem_cons_of_mem _ (ih h).1, (ih h).2⟩
    | cons y bs =>
      rcases List.mem_cons.1 h with h | h
      · obtain ⟨rfl, rfl⟩ := Prod.mk.inj h
        exact ⟨List.mem_cons_self, fun b hb => Option.some.inj hb ▸ List.mem_cons_self⟩
      · exact ⟨List.mem_cons_of_mem _ (ih h).1, fun b hb => List.mem_cons_of_mem _ ((ih h).2 b hb)⟩

theorem exists_mem_pairUp {α β : Type} {as : List α} {bs : List β} {b : β}
    (h : b ∈ bs.take as.length) : ∃ a, (a, some b) ∈ pairUp as bs := by
  induction as generalizing bs with
  | nil => simp at h
  | cons a as ih =>
    cases bs with
    | nil => simp at h
    | cons c bs =>
      rw [List.length_cons, List.take_succ_cons] at h
      rcases List.mem_cons.1 h with rfl | h
      · exact ⟨a, List.mem_cons_self⟩
      · obtain ⟨a', ha'⟩ := ih h
        exact ⟨a', List.mem_cons_of_mem _ ha'⟩

theorem mem_zip_of_mem {α β : Type} {as : List α} {bs : List β} {a : α}
    (hlength : bs.length = as.length) (h : a ∈ as) : ∃ b, (a, b) ∈ as.zip bs := by
  obtain ⟨i, hi, hget⟩ := List.getElem_of_mem h
  refine ⟨bs[i], List.mem_iff_getElem.2 ⟨i, by simp; omega, ?_⟩⟩
  rw [List.getElem_zip, hget]

/-! ### The shape of the code -/

/-- What takes one argument off the stack. -/
def unwound (old : ValueType) : Option (ValueType × UInt16) → List Instruction
  | none => [drop old]
  | some (new, slot) =>
    if new = old then [.store old.kind slot] else [drop old, new.zero, .store new.kind slot]

/-- What gives a parameter its default value. -/
def filled (p : ValueType × UInt16) : List Instruction := [p.1.zero, .store p.1.kind p.2]

def loaded (p : ValueType × UInt16) : Instruction := .load p.1.kind p.2

/-- Everything before the new call, whose parameters have the given types and slots. -/
def prologue (old : List ValueType) (new : List (ValueType × UInt16)) : List Instruction :=
  (pairUp old new).reverse.flatMap (fun (t, p) => unwound t p) ++
    (new.drop old.length).flatMap filled ++ new.map loaded

/-- The instructions before the new call. -/
theorem mem_prologue {old : List ValueType} {new : List (ValueType × UInt16)} {j : Instruction}
    (h : j ∈ prologue old new) :
    (∃ t, j = drop t) ∨
      ∃ q ∈ new, j = q.1.zero ∨ j = .store q.1.kind q.2 ∨ j = .load q.1.kind q.2 := by
  rcases List.mem_append.1 h with h | h
  · rcases List.mem_append.1 h with h | h
    · obtain ⟨⟨t, p⟩, hp, hj⟩ := List.mem_flatMap.1 h
      have hnew := (mem_of_mem_pairUp (List.mem_reverse.1 hp)).2
      cases p with
      | none => exact .inl ⟨t, List.mem_singleton.1 hj⟩
      | some q =>
        obtain ⟨u, slot⟩ := q
        simp only [unwound] at hj
        split at hj
        · rename_i heq
          subst heq
          exact .inr ⟨_, hnew _ rfl, .inr (.inl (List.mem_singleton.1 hj))⟩
        · simp only [List.mem_cons, List.not_mem_nil, or_false] at hj
          rcases hj with rfl | rfl | rfl
          · exact .inl ⟨t, rfl⟩
          · exact .inr ⟨_, hnew _ rfl, .inl rfl⟩
          · exact .inr ⟨_, hnew _ rfl, .inr (.inl rfl)⟩
    · obtain ⟨q, hq, hj⟩ := List.mem_flatMap.1 h
      simp only [filled, List.mem_cons, List.not_mem_nil, or_false] at hj
      exact .inr ⟨q, List.mem_of_mem_drop hq, hj.elim .inl fun hj => .inr (.inl hj)⟩
  · obtain ⟨q, hq, rfl⟩ := List.mem_map.1 h
    exact .inr ⟨q, hq, .inr (.inr rfl)⟩

variable {target : MethodRef} {old : List ValueType} {slots : List UInt16}

theorem storeInto_eq {t : ValueType} (h : t ≠ .void) (slot : UInt16) :
    storeInto target t slot = .ok (.store t.kind slot) := by
  simp only [storeInto, localFor, ValueType.local?_eq_kind h, ok_map]

theorem storeDefault_eq {t : ValueType} (h : t ≠ .void) (slot : UInt16) :
    storeDefault target t slot = .ok (filled (t, slot)) := by
  simp only [storeDefault, defaultFor, ValueType.pushDefault?_eq_zero h, storeInto_eq h]
  rfl

theorem unwind_eq {t : ValueType} {p : Option (ValueType × UInt16)}
    (h : ∀ q, p = some q → q.1 ≠ .void) : unwind target t p = .ok (unwound t p) := by
  cases p with
  | none => rfl
  | some q =>
    obtain ⟨new, slot⟩ := q
    have hnew : new ≠ .void := h _ rfl
    simp only [unwind, unwound]
    split
    · rename_i heq
      rw [storeInto_eq (heq ▸ hnew)]
      rfl
    · rw [storeDefault_eq hnew]
      rfl

/-! ### The parts of the code -/

/-- The old arguments are unwound, from the top of the stack down. -/
def parking (target : MethodRef) (old : List ValueType) (new : List (ValueType × UInt16)) :
    List (Except BodyError (List Instruction)) :=
  (pairUp old new).reverse.map fun (t, p) => unwind target t p

/-- The additional parameters get their default values. -/
def adding (target : MethodRef) (old : List ValueType) (new : List (ValueType × UInt16)) :
    List (Except BodyError (List Instruction)) :=
  (new.drop old.length).map fun (t, slot) => storeDefault target t slot

/-- All parameters are loaded. -/
def loading (target : MethodRef) (new : List (ValueType × UInt16)) :
    List (Except BodyError (List Instruction)) :=
  new.map fun (t, slot) => (localFor target t).map fun l => [.load l slot]

theorem marshal_eq_parts : marshal old target slots = (do
    let parked ← concat (parking target old (target.descriptor.params.zip slots))
    let added ← concat (adding target old (target.descriptor.params.zip slots))
    let loaded ← concat (loading target (target.descriptor.params.zip slots))
    return parked ++ added ++ loaded ++ [.invoke target]) := by
  have hzip := map_zipIdx_eq_pairUp old (target.descriptor.params.zip slots) 0
  rw [List.drop_zero] at hzip
  rw [marshal, hzip]
  rfl

section Proper

variable {new : List (ValueType × UInt16)} (hnew : ∀ q ∈ new, q.1 ≠ .void)

include hnew

theorem concat_parking : concat (parking target old new) =
    .ok ((pairUp old new).reverse.flatMap fun (t, p) => unwound t p) := by
  refine concat_ok ?_
  rintro ⟨t, p⟩ hq
  exact unwind_eq fun q hp => hnew q ((mem_of_mem_pairUp (List.mem_reverse.1 hq)).2 q hp)

theorem concat_adding :
    concat (adding target old new) = .ok ((new.drop old.length).flatMap filled) :=
  concat_ok fun q hq => storeDefault_eq (hnew q (List.mem_of_mem_drop hq)) q.2

theorem concat_loading : concat (loading target new) = .ok (new.map loaded) := by
  have hloaded : concat (loading target new) = .ok (new.flatMap fun q => [loaded q]) := by
    refine concat_ok fun q hq => ?_
    simp only [localFor, ValueType.local?_eq_kind (hnew q hq), ok_map]
    rfl
  rw [hloaded, ← List.map_eq_flatMap]

end Proper

/-- Without a void parameter the code is emitted. -/
theorem marshal_eq (h : ValueType.void ∉ target.descriptor.params) :
    marshal old target slots =
      .ok (prologue old (target.descriptor.params.zip slots) ++ [.invoke target]) := by
  have hnew : ∀ q ∈ target.descriptor.params.zip slots, q.1 ≠ .void := by
    intro q hq hvoid
    exact h (hvoid ▸ (List.of_mem_zip hq).1)
  rw [marshal_eq_parts, concat_parking hnew, concat_adding hnew, concat_loading hnew]
  rfl

/-- Code is emitted for parameters that can be loaded only. -/
theorem void_notMem_of_marshal_ok {code : List Instruction}
    (h : marshal old target slots = .ok code)
    (hslots : slots.length = target.descriptor.params.length) :
    ValueType.void ∉ target.descriptor.params := by
  obtain ⟨parked, -, h⟩ := bind_eq_ok.1 h
  obtain ⟨added, -, h⟩ := bind_eq_ok.1 h
  obtain ⟨code', hloaded, -⟩ := bind_eq_ok.1 h
  intro hvoid
  obtain ⟨slot, hmem⟩ := mem_zip_of_mem hslots hvoid
  obtain ⟨c, hc⟩ := ok_of_concat_ok hloaded _ (List.mem_map.2 ⟨(.void, slot), hmem, rfl⟩)
  cases hc

/-- The refusal of a call with a void parameter. -/
def noDefault (target : MethodRef) : BodyError :=
  .defaultForVoid ("argument for " ++ callText target)

theorem storeDefault_void (slot : UInt16) :
    storeDefault target .void slot = .error (noDefault target) := rfl

theorem unwind_void {t : ValueType} (h : t ≠ .void) (slot : UInt16) :
    unwind target t (some (.void, slot)) = .error (noDefault target) := by
  rw [unwind, if_neg h.symm, storeDefault_void]
  rfl

theorem old_ne_void {t : ValueType} {p : Option (ValueType × UInt16)}
    {new : List (ValueType × UInt16)} (hold : ValueType.void ∉ old)
    (h : (t, p) ∈ pairUp old new) : t ≠ .void := by
  rintro rfl
  exact hold (mem_of_mem_pairUp h).1

theorem parking_refusals (hold : ValueType.void ∉ old) (new : List (ValueType × UInt16)) :
    ∀ part ∈ parking target old new,
      part = .error (noDefault target) ∨ ∃ code, part = .ok code := by
  intro part hpart
  obtain ⟨⟨t, p⟩, hq, rfl⟩ := List.mem_map.1 hpart
  by_cases hvoid : ∃ slot, p = some (.void, slot)
  · obtain ⟨slot, rfl⟩ := hvoid
    exact .inl (unwind_void (old_ne_void hold (List.mem_reverse.1 hq)) slot)
  · refine .inr ⟨_, unwind_eq ?_⟩
    rintro ⟨new, slot⟩ rfl rfl
    exact hvoid ⟨slot, rfl⟩

theorem adding_refusals (new : List (ValueType × UInt16)) :
    ∀ part ∈ adding target old new,
      part = .error (noDefault target) ∨ ∃ code, part = .ok code := by
  intro part hpart
  obtain ⟨⟨t, slot⟩, -, rfl⟩ := List.mem_map.1 hpart
  by_cases hvoid : t = .void
  · exact .inl (hvoid ▸ storeDefault_void slot)
  · exact .inr ⟨_, storeDefault_eq hvoid slot⟩

/-- A void parameter has no default value to pass. -/
theorem marshal_refused (hold : ValueType.void ∉ old)
    (h : ValueType.void ∈ target.descriptor.params)
    (hslots : slots.length = target.descriptor.params.length) :
    marshal old target slots = .error (noDefault target) := by
  obtain ⟨slot, hmem⟩ := mem_zip_of_mem hslots h
  rw [marshal_eq_parts]
  rcases concat_of_refusals (parking_refusals hold _) with ⟨-, hparked⟩ | ⟨parked, hnone, hparked⟩
  · rw [hparked, error_bind]
  rcases concat_of_refusals (adding_refusals _) with ⟨-, hadded⟩ | ⟨added, hnone', hadded⟩
  · rw [hparked, ok_bind, hadded, error_bind]
  -- the void parameter is met by one of the two parts
  exfalso
  rw [← List.take_append_drop old.length (target.descriptor.params.zip slots)] at hmem
  rcases List.mem_append.1 hmem with hmem | hmem
  · obtain ⟨t, ht⟩ := exists_mem_pairUp hmem
    refine hnone (List.mem_map.2 ⟨(t, some (.void, slot)), List.mem_reverse.2 ht, ?_⟩)
    exact unwind_void (old_ne_void hold ht) slot
  · exact hnone' (List.mem_map.2 ⟨(.void, slot), hmem, storeDefault_void slot⟩)

end Redirection

namespace Emission

variable {call target : MethodRef} {a : LocalAllocator}

theorem emit_redirect_overflows (h : 65535 < a.next.toNat + target.descriptor.argumentSlots) :
    ((redirect call target).emit a).1 = .error (.frameOverflow .maxLocals) := by
  rw [MethodDescriptor.argumentSlots_eq_sum] at h
  have hover := LocalAllocator.allocateAll_overflows h
  rw [emit]
  split
  · rename_i e b hall
    rw [hall] at hover
    rw [Except.error.inj hover]
  · rename_i slots b hall
    rw [hall] at hover
    cases hover

/-- A redirected call gets its code for the slots right above those in use. -/
theorem emit_redirect_fits (h : a.next.toNat + target.descriptor.argumentSlots ≤ 65535) :
    ∃ (slots : List UInt16) (b : LocalAllocator),
      (redirect call target).emit a =
        (Redirection.marshal call.descriptor.params target slots, b) ∧
      slots.length = target.descriptor.params.length ∧
      LocalAllocator.Tiles a.next.toNat (target.descriptor.params.zip slots) ∧
      b.next.toNat = a.next.toNat + target.descriptor.argumentSlots := by
  rw [MethodDescriptor.argumentSlots_eq_sum] at h ⊢
  obtain ⟨slots, b, hall, hslots, hnext⟩ := LocalAllocator.allocateAll_fits h
  have hlength := congrArg List.length hslots
  rw [List.length_map, LocalAllocator.length_slotsFrom, List.length_map] at hlength
  exact ⟨slots, b, by rw [emit, hall], hlength, LocalAllocator.tiles_zip hslots, hnext⟩

theorem emit_redirect_ok {b : LocalAllocator} {code : List Instruction}
    (h : (redirect call target).emit a = (.ok code, b)) :
    ∃ slots : List UInt16, slots.length = target.descriptor.params.length ∧
      ValueType.void ∉ target.descriptor.params ∧
      code = Redirection.prologue call.descriptor.params (target.descriptor.params.zip slots) ++
        [.invoke target] ∧
      LocalAllocator.Tiles a.next.toNat (target.descriptor.params.zip slots) ∧
      b.next.toNat = a.next.toNat + target.descriptor.argumentSlots := by
  by_cases hfit : a.next.toNat + target.descriptor.argumentSlots ≤ 65535
  · obtain ⟨slots, b', hemit, hlength, htiles, hnext⟩ := @emit_redirect_fits call target a hfit
    rw [hemit] at h
    obtain ⟨hcode, rfl⟩ := Prod.mk.inj h
    have hvoid := Redirection.void_notMem_of_marshal_ok hcode hlength
    rw [Redirection.marshal_eq hvoid] at hcode
    exact ⟨slots, hlength, hvoid, (Except.ok.inj hcode).symm, htiles, hnext⟩
  · have hover := @emit_redirect_overflows call target a (Nat.lt_of_not_le hfit)
    rw [h] at hover
    cases hover

end Emission

end BytecodeMutation
