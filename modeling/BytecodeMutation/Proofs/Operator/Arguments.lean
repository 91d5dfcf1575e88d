import BytecodeMutation.Proofs.Machine.Basic
import BytecodeMutation.Proofs.Operator.Marshal
import Mathlib.Data.List.Forall2

/-! The arguments that a redirected call passes. Run on a machine, the code before the new call
takes the old arguments off the stack, keeps in fresh locals those that the new call wants at the
same position with the same type, and puts one value for every new parameter on the stack, in
order. -/

namespace BytecodeMutation

namespace Redirection

open Machine

/-- A value that an operand of the type may be. -/
def Fits (t : ValueType) (v : Value) : Prop := t.local? = some v.kind

theorem Fits.kind_eq {t : ValueType} {v : Value} (h : Fits t v) : t.kind = v.kind := by
  rw [ValueType.kind, show t.local? = some v.kind from h]
  rfl

theorem Fits.ne_void {t : ValueType} {v : Value} (h : Fits t v) : t ≠ .void := by
  rintro rfl
  cases h

theorem Fits.width_eq {t : ValueType} {v : Value} (h : Fits t v) : v.width = t.width := by
  rw [Value.width, ← h.kind_eq, ValueType.width_kind h.ne_void]

theorem fits_zero {t : ValueType} (h : t ≠ .void) : Fits t (.zero t.kind) := by
  rw [Fits, ValueType.local?_eq_kind h, Value.kind_zero]

/-! ### Single steps -/

theorem run_drop {t : ValueType} {v : Value} (h : Fits t v) (stack : List Value) (l : Locals) :
    run [drop t] ⟨v :: stack, l⟩ = some ⟨stack, l⟩ := by
  have hwidth := h.width_eq
  have hle := t.width_le_two
  have hpos := v.width_pos
  rw [run_singleton, drop]
  split
  · exact step_pop2 (by omega) stack l
  · exact step_pop (by omega) stack l

theorem run_store {t : ValueType} {v : Value} (h : Fits t v) (slot : UInt16)
    (stack : List Value) (l : Locals) :
    run [.store t.kind slot] ⟨v :: stack, l⟩ = some ⟨stack, l.put slot.toNat v⟩ := by
  rw [run_singleton, h.kind_eq]
  exact step_store v slot stack l

theorem run_zero (t : ValueType) (s : State) :
    run [t.zero] s = some (s.push (.zero t.kind)) := by
  cases t <;> rfl

theorem run_filled {t : ValueType} (h : t ≠ .void) (slot : UInt16) (stack : List Value)
    (l : Locals) :
    run (filled (t, slot)) ⟨stack, l⟩ = some ⟨stack, l.put slot.toNat (.zero t.kind)⟩ := by
  change run ([t.zero] ++ [.store t.kind slot]) ⟨stack, l⟩ = _
  rw [run_append, run_zero, Option.bind_some]
  exact run_store (fits_zero h) slot stack l

/-! ### Values passed -/

/-- What is passed for the new parameters: the old argument at a position where the types are the
same, and a default value everywhere else. -/
def passed : List ValueType → List ValueType → List Value → List Value
  | _, [], _ => []
  | u :: old, t :: new, v :: args => (if t = u then v else .zero t.kind) :: passed old new args
  | _, t :: new, _ => .zero t.kind :: passed [] new []

/-- The value that is parked for one old argument, and where. -/
def parkedAt (v : Value) : ValueType × Option (ValueType × UInt16) → List (Nat × Value)
  | (_, none) => []
  | (t, some (new, slot)) => [(slot.toNat, if new = t then v else .zero new.kind)]

theorem run_unwound {t : ValueType} {v : Value} (h : Fits t v)
    {p : Option (ValueType × UInt16)} (hp : ∀ q, p = some q → q.1 ≠ .void) (stack : List Value)
    (l : Locals) :
    run (unwound t p) ⟨v :: stack, l⟩ = some ⟨stack, l.putAll (parkedAt v (t, p))⟩ := by
  cases p with
  | none => exact run_drop h stack l
  | some q =>
    obtain ⟨new, slot⟩ := q
    have hnew : new ≠ .void := hp _ rfl
    simp only [unwound, parkedAt]
    by_cases heq : new = t
    · subst heq
      rw [if_pos rfl, if_pos rfl]
      exact run_store h slot stack l
    · rw [if_neg heq, if_neg heq]
      change run ([drop t] ++ filled (new, slot)) ⟨v :: stack, l⟩ = _
      rw [run_append, run_drop h, Option.bind_some, run_filled hnew]
      rfl

/-- The arguments come off the stack from the top down. -/
theorem run_unwound_all {qs : List ((ValueType × Option (ValueType × UInt16)) × Value)}
    (h : ∀ q ∈ qs, Fits q.1.1 q.2 ∧ ∀ r, q.1.2 = some r → r.1 ≠ .void) (stack : List Value)
    (l : Locals) :
    run ((qs.map Prod.fst).flatMap fun (t, p) => unwound t p) ⟨qs.map Prod.snd ++ stack, l⟩ =
      some ⟨stack, l.putAll (qs.flatMap fun (p, v) => parkedAt v p)⟩ := by
  induction qs generalizing l with
  | nil => rfl
  | cons q qs ih =>
    obtain ⟨⟨t, p⟩, v⟩ := q
    obtain ⟨hfits, hnew⟩ := h _ List.mem_cons_self
    rw [List.map_cons, List.map_cons, List.flatMap_cons, List.cons_append, run_append,
      run_unwound hfits hnew, Option.bind_some, ih fun q hq => h q (List.mem_cons_of_mem _ hq),
      List.flatMap_cons, Locals.putAll_append]

theorem run_filled_all {new : List (ValueType × UInt16)} (h : ∀ q ∈ new, q.1 ≠ .void)
    (stack : List Value) (l : Locals) :
    run (new.flatMap filled) ⟨stack, l⟩ =
      some ⟨stack, l.putAll (new.map fun q => (q.2.toNat, .zero q.1.kind))⟩ := by
  induction new generalizing l with
  | nil => rfl
  | cons q new ih =>
    obtain ⟨t, slot⟩ := q
    rw [List.flatMap_cons, run_append, run_filled (h _ List.mem_cons_self), Option.bind_some,
      ih fun q hq => h q (List.mem_cons_of_mem _ hq)]
    rfl

/-- The parameters are loaded in order, so the last one comes to lie on top. -/
theorem run_loaded_all {new : List (ValueType × UInt16)} {vs : List Value} {l : Locals}
    (h : List.Forall₂ (fun q v => Fits q.1 v ∧ l.get? q.2.toNat = some v) new vs)
    (stack : List Value) :
    run (new.map loaded) ⟨stack, l⟩ = some ⟨vs.reverse ++ stack, l⟩ := by
  induction h generalizing stack with
  | nil => rfl
  | @cons q v new vs hq _ ih =>
    have hstep : step (loaded q) ⟨stack, l⟩ = some ⟨v :: stack, l⟩ := by
      rw [loaded, hq.1.kind_eq]
      exact step_load hq.2
    rw [List.map_cons, run_cons, hstep, Option.bind_some, ih, List.reverse_cons, List.append_assoc]
    rfl

/-! ### Values and their slots -/

theorem passed_nil (ts : List ValueType) :
    passed [] ts [] = ts.map fun t => Value.zero t.kind := by
  induction ts with
  | nil => rfl
  | cons t ts ih =>
    change Value.zero t.kind :: passed [] ts [] = _
    rw [ih, List.map_cons]

/-- The value for each parameter. -/
theorem getElem?_passed {old new : List ValueType} {args : List Value}
    (h : List.Forall₂ Fits old args) {i : Nat} {t : ValueType} (ht : new[i]? = some t) :
    (passed old new args)[i]? = if old[i]? = some t then args[i]? else some (.zero t.kind) := by
  induction h generalizing new i with
  | nil => rw [passed_nil, List.getElem?_map, ht, List.getElem?_nil, if_neg nofun, Option.map_some]
  | @cons u v old args _ _ ih =>
    cases new with
    | nil => cases ht
    | cons t' new =>
      cases i with
      | zero =>
        obtain rfl := Option.some.inj ht
        simp only [passed, List.getElem?_cons_zero, Option.some.injEq]
        by_cases heq : t' = u
        · rw [if_pos heq, if_pos heq.symm]
        · rw [if_neg heq, if_neg (Ne.symm heq)]
      | succ i => exact ih ht

theorem fits_passed {old new : List ValueType} {args : List Value}
    (h : List.Forall₂ Fits old args) (hnew : ValueType.void ∉ new) :
    List.Forall₂ Fits new (passed old new args) := by
  have hzero : ∀ ts, ValueType.void ∉ ts → List.Forall₂ Fits ts (passed [] ts []) := by
    intro ts hts
    rw [passed_nil, List.forall₂_map_right_iff, List.forall₂_same]
    exact fun t ht => fits_zero fun hvoid => hts (hvoid ▸ ht)
  induction h generalizing new with
  | nil => exact hzero new hnew
  | @cons u v old args hfits _ ih =>
    cases new with
    | nil => exact .nil
    | cons t new =>
      rw [passed]
      refine .cons ?_ (ih fun hvoid => hnew (List.mem_cons_of_mem t hvoid))
      split
      · rename_i heq
        exact heq ▸ hfits
      · exact fits_zero fun hvoid => hnew (hvoid ▸ List.mem_cons_self)

/-- The values for parameters with the slots that they are kept in. -/
def kept (new : List (ValueType × UInt16)) (vs : List Value) : List (Nat × Value) :=
  List.zipWith (fun q v => (q.2.toNat, v)) new vs

/-- The values for the new parameters with their slots, for old arguments. -/
def placed (old : List ValueType) (new : List (ValueType × UInt16)) (args : List Value) :
    List (Nat × Value) := kept new (passed old (new.map Prod.fst) args)

/-- The old arguments that come off the stack are the first of the values. -/
theorem parked_eq_take {old : List ValueType} {args : List Value}
    (h : List.Forall₂ Fits old args) (new : List (ValueType × UInt16)) :
    (((pairUp old new).zip args).flatMap fun (p, v) => parkedAt v p) =
      (placed old new args).take old.length := by
  induction h generalizing new with
  | nil => rfl
  | @cons u v old args _ _ ih =>
    cases new with
    | nil =>
      rw [pairUp, List.zip_cons_cons, List.flatMap_cons, ih []]
      simp [placed, kept, parkedAt]
    | cons q new =>
      obtain ⟨t, slot⟩ := q
      rw [pairUp, List.zip_cons_cons, List.flatMap_cons, ih new]
      rfl

/-- The values for the additional parameters are the others. -/
theorem added_eq_drop {old : List ValueType} {args : List Value}
    (h : List.Forall₂ Fits old args) (new : List (ValueType × UInt16)) :
    ((new.drop old.length).map fun q => (q.2.toNat, Value.zero q.1.kind)) =
      (placed old new args).drop old.length := by
  induction h generalizing new with
  | nil =>
    rw [placed, passed_nil, List.map_map, kept, List.zipWith_map_right, List.zipWith_self]
    rfl
  | @cons u v old args _ _ ih =>
    cases new with
    | nil => rfl
    | cons q new => exact ih new

/-- Values in slots that tile the locals lie apart, and none lies below the first slot. -/
theorem kept_disjoint {n : Nat} {new : List (ValueType × UInt16)} {vs : List Value}
    (htiles : LocalAllocator.Tiles n new) (h : List.Forall₂ (fun q v => Fits q.1 v) new vs) :
    (kept new vs).Pairwise Locals.Disjoint ∧ ∀ p ∈ kept new vs, n ≤ p.1 := by
  induction h generalizing n with
  | nil => exact ⟨.nil, nofun⟩
  | @cons q v new vs hfits _ ih =>
    obtain ⟨t, slot⟩ := q
    obtain ⟨hslot, hrest⟩ := htiles
    obtain ⟨hpairs, hle⟩ := ih hrest
    have hwidth : v.width = t.width := hfits.width_eq
    refine ⟨.cons (fun p hp => .inl ?_) hpairs, fun p hp => ?_⟩
    · have := hle p hp
      simp only
      omega
    · rcases List.mem_cons.1 hp with rfl | hp
      · simp only
        omega
      · have := hle p hp
        omega

theorem forall₂_get?_of_kept {new : List (ValueType × UInt16)} {vs : List Value} {l : Locals}
    (h : List.Forall₂ (fun q v => Fits q.1 v) new vs)
    (hl : ∀ p ∈ kept new vs, l.get? p.1 = some p.2) :
    List.Forall₂ (fun q v => Fits q.1 v ∧ l.get? q.2.toNat = some v) new vs := by
  induction h with
  | nil => exact .nil
  | cons hfits _ ih =>
    exact .cons ⟨hfits, hl _ List.mem_cons_self⟩ (ih fun p hp => hl p (List.mem_cons_of_mem _ hp))

/-! ### Whole calls -/

theorem length_pairUp {α β : Type} (as : List α) (bs : List β) :
    (pairUp as bs).length = as.length := by
  induction as generalizing bs with
  | nil => rfl
  | cons a as ih => cases bs <;> rw [pairUp, List.length_cons, List.length_cons, ih]

theorem fits_of_mem_pairUp {old : List ValueType} {args : List Value}
    (h : List.Forall₂ Fits old args) (new : List (ValueType × UInt16))
    {q : (ValueType × Option (ValueType × UInt16)) × Value} (hq : q ∈ (pairUp old new).zip args) :
    Fits q.1.1 q.2 := by
  induction h generalizing new with
  | nil => cases hq
  | cons hfits _ ih =>
    cases new <;> rcases List.mem_cons.1 hq with rfl | hq
    · exact hfits
    · exact ih [] hq
    · exact hfits
    · exact ih _ hq

/-- At most one value is parked for an argument, so the order is that of the arguments. -/
theorem parkedAt_reverse (qs : List ((ValueType × Option (ValueType × UInt16)) × Value)) :
    (qs.reverse.flatMap fun (p, v) => parkedAt v p) =
      (qs.flatMap fun (p, v) => parkedAt v p).reverse := by
  rw [List.reverse_flatMap]
  congr 1
  funext ⟨⟨t, p⟩, v⟩
  cases p <;> rfl

/-- Values that are put in two parts, the first one backwards, are the same values. -/
theorem perm_reverse_take_append_drop {α : Type} (k : Nat) (xs : List α) :
    ((xs.take k).reverse ++ xs.drop k).Perm xs := by
  have h := (List.reverse_perm (xs.take k)).append_right (xs.drop k)
  rwa [List.take_append_drop] at h

/-- The code up to the loads puts the values in their slots, the parked ones from the last to the
first. -/
theorem run_placed {old : List ValueType} {args : List Value} (h : List.Forall₂ Fits old args)
    {new : List (ValueType × UInt16)} (hnew : ∀ q ∈ new, q.1 ≠ .void) (rest : List Value)
    (l : Locals) :
    run (((pairUp old new).reverse.flatMap fun (t, p) => unwound t p) ++
        (new.drop old.length).flatMap filled) ⟨args.reverse ++ rest, l⟩ =
      some ⟨rest, l.putAll (((placed old new args).take old.length).reverse ++
        (placed old new args).drop old.length)⟩ := by
  have hlength : (pairUp old new).length = args.length := by
    rw [length_pairUp, h.length_eq]
  have hall : ∀ q ∈ ((pairUp old new).zip args).reverse,
      Fits q.1.1 q.2 ∧ ∀ r, q.1.2 = some r → r.1 ≠ .void := by
    intro q hq
    have hmem := List.mem_reverse.1 hq
    refine ⟨fits_of_mem_pairUp h new hmem, fun r hr => hnew r ?_⟩
    exact (mem_of_mem_pairUp (List.of_mem_zip hmem).1).2 r hr
  have hparked := run_unwound_all hall rest l
  rw [List.map_reverse, List.map_reverse, List.map_fst_zip (by omega),
    List.map_snd_zip (by omega), parkedAt_reverse, parked_eq_take h] at hparked
  have hdrop : ∀ q ∈ new.drop old.length, q.1 ≠ .void := fun q hq =>
    hnew q (List.mem_of_mem_drop hq)
  have hadded := run_filled_all hdrop rest
    (l.putAll ((placed old new args).take old.length).reverse)
  rw [added_eq_drop h, ← Locals.putAll_append] at hadded
  rw [run_append, hparked, Option.bind_some, hadded]

/-- The whole code before the new call, for parameters in slots that tile the locals. -/
theorem run_prologue {old : List ValueType} {args : List Value}
    (h : List.Forall₂ Fits old args) {n : Nat} {new : List (ValueType × UInt16)}
    (htiles : LocalAllocator.Tiles n new) (hnew : ValueType.void ∉ new.map Prod.fst)
    (rest : List Value) (l : Locals) :
    ∃ l', run (prologue old new) ⟨args.reverse ++ rest, l⟩ =
        some ⟨(passed old (new.map Prod.fst) args).reverse ++ rest, l'⟩ ∧
      (∀ p ∈ placed old new args, l'.get? p.1 = some p.2) ∧ ∀ m < n, l' m = l m := by
  have hnew' : ∀ q ∈ new, q.1 ≠ .void := fun q hq hvoid =>
    hnew (hvoid ▸ List.mem_map_of_mem (f := Prod.fst) hq)
  have hfits : List.Forall₂ (fun q v => Fits q.1 v) new (passed old (new.map Prod.fst) args) :=
    List.forall₂_map_left_iff.1 (fits_passed h hnew)
  obtain ⟨hdisjoint, hle⟩ := kept_disjoint htiles hfits
  have hperm := perm_reverse_take_append_drop old.length (placed old new args)
  have hapart := hdisjoint.perm hperm.symm fun hpq => hpq.symm
  -- in whatever order they were put, values that lie apart can all be got back
  have hget : ∀ p ∈ placed old new args,
      (l.putAll (((placed old new args).take old.length).reverse ++
        (placed old new args).drop old.length)).get? p.1 = some p.2 :=
    fun p hp => Locals.get?_putAll hapart (hperm.mem_iff.2 hp)
  refine ⟨_, ?_, hget, fun m hm => ?_⟩
  · rw [prologue, run_append, run_placed h hnew', Option.bind_some]
    exact run_loaded_all (forall₂_get?_of_kept hfits hget) rest
  · refine Locals.putAll_of_lt fun p hp => ?_
    have := hle p (hperm.mem_iff.1 hp)
    omega

/-- The code touches the slots of the new parameters only. -/
theorem slot_of_mem_prologue {old : List ValueType} {new : List (ValueType × UInt16)}
    {k : LocalType} {n : UInt16}
    (h : .store k n ∈ prologue old new ∨ .load k n ∈ prologue old new) :
    ∃ t, (t, n) ∈ new ∧ t.kind = k := by
  have hdrop : ∀ t, .store k n ≠ drop t ∧ .load k n ≠ drop t := by
    intro t
    unfold drop
    split <;> exact ⟨nofun, nofun⟩
  have hzero : ∀ t : ValueType, .store k n ≠ t.zero ∧ .load k n ≠ t.zero := by
    intro t
    cases t <;> exact ⟨nofun, nofun⟩
  rcases h with h | h
  · rcases mem_prologue h with ⟨t, ht⟩ | ⟨q, hq, ht | ht | ht⟩
    · exact absurd ht (hdrop t).1
    · exact absurd ht (hzero q.1).1
    · obtain ⟨rfl, rfl⟩ := Instruction.store.inj ht
      exact ⟨q.1, hq, rfl⟩
    · cases ht
  · rcases mem_prologue h with ⟨t, ht⟩ | ⟨q, hq, ht | ht | ht⟩
    · exact absurd ht (hdrop t).2
    · exact absurd ht (hzero q.1).2
    · cases ht
    · obtain ⟨rfl, rfl⟩ := Instruction.load.inj ht
      exact ⟨q.1, hq, rfl⟩

end Redirection

open Machine Redirection

/-- From every stack that holds arguments of a call, with the receiver at the top of the rest, the
code before the redirected call runs through and leaves the arguments of the new call on the same
rest: the old argument where position and type are the same, and the default value elsewhere. It
works in fresh locals, and those of different parameters lie apart. -/
theorem redirected_call_passes_arguments {call target : MethodRef}
    (hvoid : ValueType.void ∉ target.descriptor.params) {a : LocalAllocator}
    (hfit : a.next.toNat + target.descriptor.argumentSlots ≤ 65535) {args : List Value}
    (hargs : List.Forall₂ Fits call.descriptor.params args) (rest : List Value) (l : Locals) :
    ∃ (code : List Instruction) (b : LocalAllocator) (slots : List UInt16) (values : List Value)
      (l' : Locals),
      (Emission.redirect call target).emit a = (.ok (code ++ [.invoke target]), b) ∧
      b.next.toNat = a.next.toNat + target.descriptor.argumentSlots ∧
      run code ⟨args.reverse ++ rest, l⟩ = some ⟨values.reverse ++ rest, l'⟩ ∧
      values.length = target.descriptor.params.length ∧
      (∀ (i : Nat) t, target.descriptor.params[i]? = some t →
        values[i]? = if call.descriptor.params[i]? = some t then args[i]?
          else some (.zero t.kind)) ∧
      (∀ n < a.next.toNat, l' n = l n) ∧
      slots.length = target.descriptor.params.length ∧
      (target.descriptor.params.zip slots).Pairwise
        (fun p q => p.2.toNat + p.1.width ≤ q.2.toNat) ∧
      (∀ (i : Nat) slot v, slots[i]? = some slot → values[i]? = some v →
        l'.get? slot.toNat = some v) ∧
      ∀ k n, .store k n ∈ code ∨ .load k n ∈ code → a.next.toNat ≤ n.toNat ∧
        ∃ t, (t, n) ∈ target.descriptor.params.zip slots ∧ t.kind = k := by
  obtain ⟨slots, b, hemit, hlength, htiles, hnext⟩ :=
    @Emission.emit_redirect_fits call target a hfit
  rw [marshal_eq hvoid] at hemit
  have hfst : (target.descriptor.params.zip slots).map Prod.fst = target.descriptor.params :=
    List.map_fst_zip (by omega)
  obtain ⟨l', hrun, hkept, hbelow⟩ := run_prologue hargs htiles (by rwa [hfst]) rest l
  rw [hfst] at hrun
  rw [placed, hfst] at hkept
  refine ⟨_, b, slots, _, l', hemit, hnext, hrun, (fits_passed hargs hvoid).length_eq.symm,
    fun i t ht => getElem?_passed hargs ht, hbelow, hlength, htiles.pairwise,
    fun i slot v hslot hv => ?_, fun k n h => ?_⟩
  · refine hkept (slot.toNat, v) (List.mem_of_getElem? (i := i) ?_)
    have hi : i < target.descriptor.params.length :=
      hlength ▸ (List.getElem?_eq_some_iff.1 hslot).1
    have hzip : (target.descriptor.params.zip slots)[i]? =
        some (target.descriptor.params[i], slot) :=
      List.getElem?_zip_eq_some.2 ⟨List.getElem?_eq_getElem hi, hslot⟩
    rw [kept, List.getElem?_zipWith, hzip, hv]
  · obtain ⟨t, ht, hkind⟩ := slot_of_mem_prologue h
    exact ⟨(htiles.mem_bounds ht).1, t, ht, hkind⟩

namespace Sample

def move : MethodRef := ⟨.virtual, "A", "move", ⟨[.int, .long], .int⟩⟩

def wideMove : MethodRef := ⟨.virtual, "A", "move", ⟨[.int, .double, .float], .int⟩⟩

end Sample

/-- The receiver stays, the integer is passed on, and the other two parameters get zeros. -/
theorem redirected_move_passes_arguments :
    ValueType.void ∉ Sample.wideMove.descriptor.params ∧
      (3 : UInt16).toNat + Sample.wideMove.descriptor.argumentSlots ≤ 65535 ∧
      List.Forall₂ Fits Sample.move.descriptor.params [.int 5, .long 8] ∧
      ∃ (code : List Instruction) (b : LocalAllocator) (l : Locals),
        (Emission.redirect Sample.move Sample.wideMove).emit ⟨3⟩ =
          (.ok (code ++ [.invoke Sample.wideMove]), b) ∧
        b.next.toNat = 7 ∧
        run code ⟨[.long 8, .int 5, .reference (some 0)], fun _ => none⟩ =
          some ⟨[.float .zero, .double .zero, .int 5, .reference (some 0)], l⟩ := by
  have hvoid : ValueType.void ∉ Sample.wideMove.descriptor.params := by decide
  have hfit : (3 : UInt16).toNat + Sample.wideMove.descriptor.argumentSlots ≤ 65535 := by decide
  have hargs : List.Forall₂ Fits Sample.move.descriptor.params [.int 5, .long 8] :=
    .cons rfl (.cons rfl .nil)
  obtain ⟨code, b, slots, values, l, hemit, hnext, hrun, hlength, hvalues, -⟩ :=
    @redirected_call_passes_arguments Sample.move Sample.wideMove hvoid ⟨3⟩ hfit _ hargs
      [.reference (some 0)] fun _ => none
  match values, hlength with
  | [x, y, z], _ =>
    obtain rfl := Option.some.inj (hvalues 0 .int rfl)
    obtain rfl := Option.some.inj (hvalues 1 .double rfl)
    obtain rfl := Option.some.inj (hvalues 2 .float rfl)
    exact ⟨hvoid, hfit, hargs, code, b, l, hemit, hnext, hrun⟩

end BytecodeMutation
