import BytecodeMutation.Descriptor.Text
import Mathlib.Data.List.TakeWhile
import Mathlib.Data.Set.Function

/-! Which types and descriptors are written as texts. Well formed are those in which no class name
is empty or holds the semicolon that ends it, and in which void is neither a parameter nor an
element of an array. Reading yields the well-formed ones, each from its written form and from
nothing else. -/

namespace BytecodeMutation

theorem ofList_eq_iff {cs : List Char} {s : String} : String.ofList cs = s ↔ s.toList = cs := by
  constructor
  · rintro rfl
    exact String.toList_ofList
  · rintro rfl
    exact String.ofList_toList

namespace ValueType

/-- No class name is empty or holds a semicolon, and void is in no array. By itself it is well
formed. -/
def WellFormed : ValueType → Prop
  | object className => className ≠ "" ∧ ';' ∉ className.toList
  | array element => element ≠ void ∧ element.WellFormed
  | _ => True

instance : DecidablePred WellFormed := decide
where
  decide : (t : ValueType) → Decidable t.WellFormed
    | object className => inferInstanceAs (Decidable (className ≠ "" ∧ ';' ∉ className.toList))
    | array element => @instDecidableAnd _ _ inferInstance (decide element)
    | boolean | byte | char | short | int | long | float | double | void => .isTrue trivial

/-! ### Class names -/

/-- A class name ends at the first semicolon. -/
theorem className_split {cs after : List Char} {d : Char}
    (h : cs.dropWhile (· != ';') = d :: after) :
    cs = cs.takeWhile (· != ';') ++ ';' :: after ∧ ';' ∉ cs.takeWhile (· != ';') := by
  have hd : d = ';' := by
    have := List.head_dropWhile_not (· != ';') (l := cs) (by simp [h])
    simpa [h] using this
  have hsplit := List.takeWhile_append_dropWhile (p := (· != ';')) (l := cs)
  rw [h, hd] at hsplit
  refine ⟨hsplit.symm, fun hmem => ?_⟩
  simpa using List.mem_takeWhile_imp hmem

theorem className_taken {name : List Char} (h : ';' ∉ name) (rest : List Char) :
    (name ++ ';' :: rest).takeWhile (· != ';') = name ∧
      (name ++ ';' :: rest).dropWhile (· != ';') = ';' :: rest := by
  have hplain : ∀ c ∈ name, (c != ';') = true := fun c hc => by
    rw [bne_iff_ne]
    rintro rfl
    exact h hc
  rw [List.takeWhile_append_of_pos hplain, List.dropWhile_append_of_pos hplain]
  simp

/-! ### Types -/

/-- Reading takes the written form of a well-formed type off the front of the text. -/
theorem read?_sound {cs rest : List Char} {t : ValueType} (h : read? cs = some (t, rest)) :
    t.WellFormed ∧ cs = t.toChars ++ rest := by
  induction cs generalizing t rest with
  | nil => simp [read?] at h
  | cons c cs ih =>
    unfold read? at h
    split at h
    -- a class, then an array, then what begins no type, and last the letters
    case h_10 =>
      rename_i rest' heq
      obtain ⟨rfl, rfl⟩ := List.cons.inj heq
      dsimp only at h
      split at h
      · cases h
      · rename_i d after hafter
        split at h
        · cases h
        · rename_i hempty
          obtain ⟨rfl, rfl⟩ := Prod.mk.inj (Option.some.inj h)
          obtain ⟨hsplit, hname⟩ := className_split hafter
          refine ⟨⟨?_, ?_⟩, ?_⟩
          · simpa [String.ext_iff] using hempty
          · rwa [String.toList_ofList]
          · rw [toChars, String.toList_ofList]
            simpa using hsplit
    case h_11 =>
      rename_i rest' heq
      obtain ⟨rfl, rfl⟩ := List.cons.inj heq
      split at h
      · cases h
      · rename_i element r hvoid hr
        obtain ⟨rfl, rfl⟩ := Prod.mk.inj (Option.some.inj h)
        obtain ⟨helement, rfl⟩ := ih hr
        exact ⟨⟨hvoid, helement⟩, rfl⟩
      · cases h
    case h_12 => cases h
    all_goals
      rename_i rest' heq
      obtain ⟨rfl, rfl⟩ := List.cons.inj heq
      obtain ⟨rfl, rfl⟩ := Prod.mk.inj (Option.some.inj h)
      exact ⟨trivial, rfl⟩

/-- The written form of a well-formed type is read as the type, whatever follows it. -/
theorem read?_toChars_append {t : ValueType} (h : t.WellFormed) (rest : List Char) :
    read? (t.toChars ++ rest) = some (t, rest) := by
  induction t with
  | object className =>
    obtain ⟨hne, hname⟩ := h
    obtain ⟨htake, hdrop⟩ := className_taken hname rest
    simp [toChars, read?, htake, hdrop, hne]
  | array element ih =>
    obtain ⟨hvoid, helement⟩ := h
    rw [toChars, List.cons_append, read?, ih helement]
    split
    · rename_i heq
      cases heq
      exact absurd rfl hvoid
    · rename_i heq
      cases heq
      rfl
    · rename_i heq
      cases heq
  | _ => rfl

theorem read?_eq_some_iff {cs rest : List Char} {t : ValueType} :
    read? cs = some (t, rest) ↔ t.WellFormed ∧ cs = t.toChars ++ rest :=
  ⟨read?_sound, fun ⟨h, hcs⟩ => hcs ▸ read?_toChars_append h rest⟩

theorem ofText?_eq_some_iff {s : String} {t : ValueType} :
    ofText? s = some t ↔ t.WellFormed ∧ t.text = s := by
  have hread : ofText? s = some t ↔ read? s.toList = some (t, []) := by
    unfold ofText?
    split <;> simp_all
  rw [hread, read?_eq_some_iff, List.append_nil, text, ofList_eq_iff]

end ValueType

namespace MethodDescriptor

structure WellFormed (d : MethodDescriptor) : Prop where
  params : ∀ t ∈ d.params, t ≠ .void ∧ t.WellFormed
  ret : d.ret.WellFormed

instance : DecidablePred WellFormed := fun d =>
  decidable_of_iff ((∀ t ∈ d.params, t ≠ .void ∧ t.WellFormed) ∧ d.ret.WellFormed)
    ⟨fun h => ⟨h.1, h.2⟩, fun h => ⟨h.params, h.ret⟩⟩

theorem readParams?_sound {cs rest : List Char} {ts : List ValueType}
    (h : readParams? cs = some (ts, rest)) :
    (∀ t ∈ ts, t ≠ .void ∧ t.WellFormed) ∧ cs = ts.flatMap ValueType.toChars ++ ')' :: rest := by
  fun_induction readParams? cs generalizing ts rest with
  | case1 =>
    obtain ⟨rfl, rfl⟩ := Prod.mk.inj (Option.some.inj h)
    exact ⟨nofun, rfl⟩
  | case2 => cases h
  | case3 => cases h
  | case4 cs _ t after hvoid hread ih =>
    obtain ⟨⟨ts', rest'⟩, hrest, heq⟩ := Option.map_eq_some_iff.1 h
    obtain ⟨rfl, rfl⟩ := Prod.mk.inj heq
    obtain ⟨hts, rfl⟩ := ih hrest
    obtain ⟨ht, rfl⟩ := ValueType.read?_sound hread
    refine ⟨List.forall_mem_cons.2 ⟨⟨hvoid, ht⟩, hts⟩, ?_⟩
    rw [List.flatMap_cons, List.append_assoc]

theorem readParams?_cons {cs after : List Char} {t : ValueType} (hvoid : t ≠ .void)
    (hread : ValueType.read? cs = some (t, after)) :
    readParams? cs = (readParams? after).map fun (ts, rest) => (t :: ts, rest) := by
  rw [readParams?.eq_def]
  split
  · cases hread
  · split
    · simp_all
    · simp_all
    · simp_all

theorem readParams?_flatMap {ts : List ValueType} (h : ∀ t ∈ ts, t ≠ .void ∧ t.WellFormed)
    (rest : List Char) :
    readParams? (ts.flatMap ValueType.toChars ++ ')' :: rest) = some (ts, rest) := by
  induction ts with
  | nil => simp [readParams?]
  | cons t ts ih =>
    obtain ⟨⟨hvoid, ht⟩, hts⟩ := List.forall_mem_cons.1 h
    rw [List.flatMap_cons, List.append_assoc,
      readParams?_cons hvoid (ValueType.read?_toChars_append ht _), ih hts]
    rfl

theorem ofText?_eq_some_iff {s : String} {d : MethodDescriptor} :
    ofText? s = some d ↔ d.WellFormed ∧ d.text = s := by
  rw [text, ofList_eq_iff]
  constructor
  · intro h
    unfold ofText? at h
    split at h
    · rename_i rest hs
      split at h
      · cases h
      · rename_i params rest' hparams
        split at h
        · rename_i ret hret
          obtain rfl := Option.some.inj h
          obtain ⟨hts, rfl⟩ := readParams?_sound hparams
          obtain ⟨ht, rfl⟩ := ValueType.read?_sound hret
          exact ⟨⟨hts, ht⟩, by rw [hs, toChars, List.append_nil]; rfl⟩
        · cases h
    · cases h
  · rintro ⟨⟨hts, ht⟩, hs⟩
    have hret := ValueType.read?_toChars_append ht []
    rw [List.append_nil] at hret
    rw [ofText?, hs, toChars, List.cons_append]
    simp only [readParams?_flatMap hts, hret]

/-- A descriptor ends where its text ends, so the text of one begins that of no other. -/
theorem toChars_append_inj {d e : MethodDescriptor} (hd : d.WellFormed) (he : e.WellFormed)
    {rest rest' : List Char} (h : d.toChars ++ rest = e.toChars ++ rest') :
    d = e ∧ rest = rest' := by
  have hparams : d.params.flatMap ValueType.toChars ++ ')' :: (d.ret.toChars ++ rest) =
      e.params.flatMap ValueType.toChars ++ ')' :: (e.ret.toChars ++ rest') := by
    simpa [toChars] using h
  have hread := readParams?_flatMap hd.params (d.ret.toChars ++ rest)
  rw [hparams, readParams?_flatMap he.params] at hread
  obtain ⟨hts, hafter⟩ := Prod.mk.inj (Option.some.inj hread)
  have hret := ValueType.read?_toChars_append hd.ret rest
  rw [← hafter, ValueType.read?_toChars_append he.ret] at hret
  obtain ⟨ht, hrest⟩ := Prod.mk.inj (Option.some.inj hret)
  cases d
  cases e
  exact ⟨congrArg₂ MethodDescriptor.mk hts.symm ht.symm, hrest.symm⟩

theorem text_injOn : Set.InjOn text {d | d.WellFormed} := by
  intro d hd e he h
  have hread := ofText?_eq_some_iff.2 ⟨hd, h⟩
  rw [ofText?_eq_some_iff.2 ⟨he, rfl⟩] at hread
  exact (Option.some.inj hread).symm

theorem ofText?_text_append {d : MethodDescriptor} (hd : d.WellFormed) {rest : String}
    (hrest : rest ≠ "") : ofText? (d.text ++ rest) = none := by
  cases hread : ofText? (d.text ++ rest) with
  | none => rfl
  | some e =>
    obtain ⟨he, htext⟩ := ofText?_eq_some_iff.1 hread
    have hchars : e.toChars ++ [] = d.toChars ++ rest.toList := by
      rw [text, text, ofList_eq_iff, String.toList_append, String.toList_ofList] at htext
      rw [List.append_nil, htext]
    have hnil := (toChars_append_inj he hd hchars).2
    exact absurd (String.toList_eq_nil_iff.1 hnil.symm) hrest

end MethodDescriptor

/-- Reading is the inverse of writing on what is well formed, and yields nothing else. Hence no two
descriptors have one text, and no descriptor is read from a text that goes on after it. -/
theorem text_is_read_iff_wellFormed :
    (∀ (s : String) (t : ValueType),
      ValueType.ofText? s = some t ↔ t.WellFormed ∧ t.text = s) ∧
    (∀ (s : String) (d : MethodDescriptor),
      MethodDescriptor.ofText? s = some d ↔ d.WellFormed ∧ d.text = s) ∧
    Set.InjOn MethodDescriptor.text {d | d.WellFormed} ∧
    ∀ (d : MethodDescriptor) (rest : String), d.WellFormed → rest ≠ "" →
      MethodDescriptor.ofText? (d.text ++ rest) = none :=
  ⟨fun _ _ => ValueType.ofText?_eq_some_iff, fun _ _ => MethodDescriptor.ofText?_eq_some_iff,
    MethodDescriptor.text_injOn, fun _ _ hd hrest => MethodDescriptor.ofText?_text_append hd hrest⟩

/-- A class name may hold letters of any script, and what means something else outside of it. -/
theorem accented_class_name_is_read :
    let d : MethodDescriptor := ⟨[.long, .array (.object "été/(V)Ω")], .void⟩
    d.WellFormed ∧ MethodDescriptor.ofText? "(J[Lété/(V)Ω;)V" = some d ∧
      MethodDescriptor.ofText? "(J[Lété/(V)Ω;)VV" = none := by
  intro d
  have hd : d.WellFormed := by decide
  have htext : d.text = "(J[Lété/(V)Ω;)V" := by decide
  have hmore : d.text ++ "V" = "(J[Lété/(V)Ω;)VV" := by decide
  obtain ⟨-, hread, -, hends⟩ := text_is_read_iff_wellFormed
  exact ⟨hd, (hread _ d).2 ⟨hd, htext⟩, hmore ▸ hends d "V" hd (by decide)⟩

end BytecodeMutation
