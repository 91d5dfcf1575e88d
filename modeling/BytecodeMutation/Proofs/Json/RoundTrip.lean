import BytecodeMutation.Proofs.Json.Lexical

/-! A value is read back from its text over several lines. The reader skips the line breaks and the
indentation, takes one value off the front of the text and stops; twice the length of the value's
text is fuel enough for that, since every step of the reader takes a character or enters a value
that begins with one. -/

namespace BytecodeMutation.Json

/-- Whether all numbers in a value are of a form that can be read. -/
inductive IsWritten : Json → Prop where
  | null : IsWritten null
  | bool (b : Bool) : IsWritten (bool b)
  | number {n : Numeral} (h : n.IsWritten) : IsWritten (number n)
  | string (s : Text) : IsWritten (string s)
  | array {items : List Json} (h : ∀ j ∈ items, IsWritten j) : IsWritten (array items)
  | object {members : List (Text × Json)} (h : ∀ m ∈ members, IsWritten m.2) :
    IsWritten (object members)

/-! ### Blanks -/

theorem skipBlank_cons {c : Char} (h : isBlank c = false) (cs : List Char) :
    skipBlank (c :: cs) = c :: cs := List.dropWhile_cons_of_neg (by simp [h])

theorem skipBlank_append {blanks : List Char} (h : ∀ c ∈ blanks, isBlank c = true)
    (cs : List Char) : skipBlank (blanks ++ cs) = skipBlank cs :=
  List.dropWhile_append_of_pos h

theorem isBlank_of_mem_newline {depth : Nat} {c : Char} (h : c ∈ newline depth) :
    isBlank c = true := by
  rcases List.mem_cons.1 h with rfl | h
  · rfl
  · rw [List.eq_of_mem_replicate h]
    rfl

theorem skipBlank_newline (depth : Nat) (cs : List Char) :
    skipBlank (newline depth ++ cs) = skipBlank cs :=
  skipBlank_append (fun _ => isBlank_of_mem_newline) cs

theorem skipBlank_space (cs : List Char) : skipBlank (' ' :: cs) = skipBlank cs := rfl

theorem readValue?_congr {cs cs' : List Char} (h : skipBlank cs = skipBlank cs') (fuel : Nat) :
    readValue? fuel cs = readValue? fuel cs' := by
  cases fuel with
  | zero => rw [readValue?, readValue?]
  | succ fuel => rw [readValue?, readValue?, h]

theorem readItems?_congr {cs cs' : List Char} (h : skipBlank cs = skipBlank cs') (fuel : Nat) :
    readItems? fuel cs = readItems? fuel cs' := by
  cases fuel with
  | zero => rw [readItems?, readItems?]
  | succ fuel => rw [readItems?, readItems?, readValue?_congr h]

theorem readMembers?_congr {cs cs' : List Char} (h : skipBlank cs = skipBlank cs') (fuel : Nat) :
    readMembers? fuel cs = readMembers? fuel cs' := by
  cases fuel with
  | zero => rw [readMembers?, readMembers?]
  | succ fuel => rw [readMembers?, readMembers?, h]

/-! ### One value -/

/-- Whether the value is read back wherever its text stands. -/
def ReadsBack (j : Json) : Prop :=
  ∀ depth fuel rest, 2 * (j.prettyChars depth).length ≤ fuel → EndsNumber rest →
    readValue? fuel (j.prettyChars depth ++ rest) = some (j, rest)

/-- The characters that a number begins with. -/
def startsNumber (c : Char) : Bool := c == '-' || c.isDigit

theorem ne_of_startsNumber {c e : Char} (h : startsNumber c = true)
    (he : startsNumber e = false) : c ≠ e := by
  rintro rfl
  rw [h] at he
  cases he

theorem Numeral.head_toChars {n : Numeral} (h : n.IsWritten) :
    ∃ c cs, n.toChars = c :: cs ∧ startsNumber c = true := by
  rw [toChars_eq]
  cases n.negative with
  | true => exact ⟨'-', _, rfl, rfl⟩
  | false =>
    obtain ⟨d, ds, hds⟩ := List.exists_cons_of_ne_nil h.whole_ne_nil
    have hd := h.whole d (hds ▸ List.mem_cons_self)
    exact ⟨d, _, by rw [hds]; rfl, by rw [startsNumber, hd, Bool.or_true]⟩

theorem isBlank_of_startsNumber {c : Char} (h : startsNumber c = true) : isBlank c = false := by
  have hne : ∀ e, startsNumber e = false → (c == e) = false := fun e he =>
    beq_false_of_ne (ne_of_startsNumber h he)
  rw [isBlank, hne ' ' rfl, hne '\n' rfl, hne '\t' rfl, hne '\r' rfl]
  rfl

/-- No value begins with a blank or as the end of a list. -/
theorem IsWritten.head_prettyChars {j : Json} (h : j.IsWritten) (depth : Nat) :
    ∃ c cs, j.prettyChars depth = c :: cs ∧ isBlank c = false ∧ c ≠ ']' := by
  cases h with
  | null => exact ⟨'n', _, rfl, by decide⟩
  | bool b => cases b <;> exact ⟨_, _, rfl, by decide⟩
  | number h =>
    obtain ⟨c, cs, hcs, hc⟩ := Numeral.head_toChars h
    exact ⟨c, cs, hcs, isBlank_of_startsNumber hc, ne_of_startsNumber hc rfl⟩
  | string s => cases s <;> exact ⟨'\x22', _, rfl, by decide⟩
  | @array items _ => cases items <;> exact ⟨'[', _, rfl, by decide⟩
  | @object members _ => cases members <;> exact ⟨'\x7b', _, rfl, by decide⟩

/-- There is always fuel for a step, since no value has an empty text. -/
theorem IsWritten.readsBack_of_succ {j : Json} (h : j.IsWritten)
    (hread : ∀ depth fuel rest, 2 * (j.prettyChars depth).length ≤ fuel + 1 → EndsNumber rest →
      readValue? (fuel + 1) (j.prettyChars depth ++ rest) = some (j, rest)) : ReadsBack j := by
  intro depth fuel rest hfuel hrest
  obtain ⟨c, cs, hcs, -⟩ := h.head_prettyChars depth
  cases fuel with
  | zero =>
    rw [hcs, List.length_cons] at hfuel
    omega
  | succ fuel => exact hread depth fuel rest hfuel hrest

theorem readsBack_number {n : Numeral} (h : n.IsWritten) : ReadsBack (number n) := by
  refine (IsWritten.number h).readsBack_of_succ fun depth fuel rest _ hrest => ?_
  obtain ⟨c, cs, hcs, hc⟩ := Numeral.head_toChars h
  have hread := Numeral.readNumeral?_append h hrest
  change readValue? (fuel + 1) (n.toChars ++ rest) = _
  rw [hcs, List.cons_append] at hread ⊢
  rw [readValue?, skipBlank_cons (isBlank_of_startsNumber hc)]
  have hne : ∀ e, startsNumber e = false → c ≠ e := fun e he => ne_of_startsNumber hc he
  split
  case h_7 => rw [hread]; rfl
  all_goals
    rename_i heq
    exact absurd (List.cons.inj heq).1 (hne _ rfl)

theorem readsBack_string (s : Text) : ReadsBack (string s) := by
  refine (IsWritten.string s).readsBack_of_succ fun depth fuel rest _ _ => ?_
  change readValue? (fuel + 1) (s.toChars ++ rest) = _
  rw [Text.toChars_append, readValue?, skipBlank_cons (by decide)]
  change (readText? _).map _ = _
  rw [Text.readText?_innerChars]
  rfl

/-! ### Lists -/

theorem endsNumber_cons {c : Char} (h : (c.isDigit || c == '.' || c == 'e' || c == 'E') = false)
    (cs : List Char) : EndsNumber (c :: cs) := by
  rintro d ⟨⟩
  simpa [and_assoc] using h

theorem endsNumber_prettyItems (depth : Nat) (items : List Json) (rest : List Char) :
    EndsNumber (prettyItems depth items ++ rest) := by
  cases items <;> exact endsNumber_cons (by decide) _

/-- The last item of a list. -/
theorem readItems?_last {j : Json} {fuel : Nat} {cs after rest : List Char}
    (h : readValue? fuel cs = some (j, after)) (hafter : skipBlank after = ']' :: rest) :
    readItems? (fuel + 1) cs = some ([j], rest) := by
  rw [readItems?, h]
  simp only [hafter]

/-- An item with more behind it. -/
theorem readItems?_more {j : Json} {fuel : Nat} {cs after rest : List Char}
    (h : readValue? fuel cs = some (j, after)) (hafter : skipBlank after = ',' :: rest) :
    readItems? (fuel + 1) cs =
      (readItems? fuel rest).map fun (items, rest) => (j :: items, rest) := by
  rw [readItems?, h]
  simp only [hafter]

theorem prettyItems_nil_append (depth : Nat) (rest : List Char) :
    prettyItems depth [] ++ rest = newline depth ++ ']' :: rest := by
  rw [prettyItems, List.append_assoc]
  rfl

theorem prettyItems_cons_append (depth : Nat) (j : Json) (items : List Json) (rest : List Char) :
    prettyItems depth (j :: items) ++ rest = ',' :: (newline (depth + 1) ++
      (j.prettyChars (depth + 1) ++ (prettyItems depth items ++ rest))) := by
  rw [prettyItems, List.append_assoc, List.append_assoc, List.cons_append]

theorem length_prettyItems_cons (depth : Nat) (j : Json) (items : List Json) :
    2 + (j.prettyChars (depth + 1)).length + (prettyItems depth items).length ≤
      (prettyItems depth (j :: items)).length := by
  simp [prettyItems, newline]
  omega

theorem readItems?_pretty (depth : Nat) (rest : List Char) (items : List Json) :
    ∀ (j : Json) (fuel : Nat), (∀ k ∈ j :: items, ReadsBack k) →
      2 * ((j.prettyChars (depth + 1)).length + (prettyItems depth items).length) + 1 ≤ fuel →
      readItems? fuel (j.prettyChars (depth + 1) ++ (prettyItems depth items ++ rest)) =
        some (j :: items, rest) := by
  induction items with
  | nil =>
    intro j fuel hreads hfuel
    obtain ⟨fuel, rfl⟩ : ∃ k, fuel = k + 1 := ⟨fuel - 1, by omega⟩
    have hread := hreads j List.mem_cons_self (depth + 1) fuel _ (by omega)
      (endsNumber_prettyItems depth [] rest)
    refine readItems?_last hread ?_
    rw [prettyItems_nil_append, skipBlank_newline, skipBlank_cons (by decide)]
  | cons k items ih =>
    intro j fuel hreads hfuel
    obtain ⟨fuel, rfl⟩ : ∃ k, fuel = k + 1 := ⟨fuel - 1, by omega⟩
    have hread := hreads j List.mem_cons_self (depth + 1) fuel _ (by omega)
      (endsNumber_prettyItems depth (k :: items) rest)
    have hlength := length_prettyItems_cons depth k items
    have hmore := ih k fuel (fun l hl => hreads l (List.mem_cons_of_mem j hl)) (by omega)
    rw [prettyItems_cons_append] at hread ⊢
    rw [readItems?_more hread (skipBlank_cons (by decide) _),
      readItems?_congr (skipBlank_newline (depth + 1) _), hmore]
    rfl

theorem readValue?_array {c : Char} (hblank : isBlank c = false) (hclose : c ≠ ']')
    (depth fuel : Nat) (cs : List Char) :
    readValue? (fuel + 1) ('[' :: (newline depth ++ c :: cs)) =
      (readItems? fuel (c :: cs)).map fun (items, rest) => (array items, rest) := by
  rw [readValue?, skipBlank_cons (by decide)]
  simp only [skipBlank_newline, skipBlank_cons hblank]
  split
  · rename_i heq
    exact absurd (List.cons.inj heq).1 hclose
  · rfl

theorem prettyChars_array_cons (depth : Nat) (j : Json) (items : List Json) :
    prettyChars depth (array (j :: items)) = '[' :: (newline (depth + 1) ++
      (j.prettyChars (depth + 1) ++ prettyItems depth items)) := by
  rw [prettyChars, List.append_assoc, List.cons_append]

theorem readsBack_array {items : List Json} (h : ∀ j ∈ items, IsWritten j)
    (hreads : ∀ j ∈ items, ReadsBack j) : ReadsBack (array items) := by
  refine (IsWritten.array h).readsBack_of_succ fun depth fuel rest hfuel _ => ?_
  cases items with
  | nil => rfl
  | cons j items =>
    obtain ⟨c, cs, hcs, hblank, hclose⟩ := (h j List.mem_cons_self).head_prettyChars (depth + 1)
    rw [prettyChars_array_cons] at hfuel ⊢
    simp only [List.length_cons, List.length_append] at hfuel
    have hread := readItems?_pretty depth rest items j fuel hreads (by omega)
    rw [hcs] at hread ⊢
    rw [List.cons_append, List.append_assoc, List.append_assoc, List.cons_append,
      readValue?_array hblank hclose, ← List.cons_append, hread]
    rfl

/-! ### Objects -/

theorem endsNumber_prettyMembers (depth : Nat) (members : List (Text × Json)) (rest : List Char) :
    EndsNumber (prettyMembers depth members ++ rest) := by
  rcases members with - | ⟨⟨key, j⟩, members⟩ <;> exact endsNumber_cons (by decide) _

/-- A key, the colon and a blank in front of a value. -/
def keyChars (key : Text) (cs : List Char) : List Char := key.toChars ++ ':' :: ' ' :: cs

theorem keyChars_eq (key : Text) (cs : List Char) :
    keyChars key cs = '\x22' :: (key.innerChars ++ '\x22' :: ':' :: ' ' :: cs) :=
  key.toChars_append _

/-- The last member of an object. -/
theorem readMembers?_last {key : Text} {j : Json} {fuel : Nat} {cs after rest : List Char}
    (h : readValue? fuel cs = some (j, after)) (hafter : skipBlank after = '\x7d' :: rest) :
    readMembers? (fuel + 1) (keyChars key cs) = some ([(key, j)], rest) := by
  have hvalue := (readValue?_congr (skipBlank_space cs) fuel).trans h
  have hcolon := skipBlank_cons (c := ':') (by decide) (' ' :: cs)
  rw [keyChars_eq, readMembers?, skipBlank_cons (by decide)]
  simp only [Text.readText?_innerChars, hcolon, hvalue, hafter]

/-- A member with more behind it. -/
theorem readMembers?_more {key : Text} {j : Json} {fuel : Nat} {cs after rest : List Char}
    (h : readValue? fuel cs = some (j, after)) (hafter : skipBlank after = ',' :: rest) :
    readMembers? (fuel + 1) (keyChars key cs) =
      (readMembers? fuel rest).map fun (members, rest) => ((key, j) :: members, rest) := by
  have hvalue := (readValue?_congr (skipBlank_space cs) fuel).trans h
  have hcolon := skipBlank_cons (c := ':') (by decide) (' ' :: cs)
  rw [keyChars_eq, readMembers?, skipBlank_cons (by decide)]
  simp only [Text.readText?_innerChars, hcolon, hvalue, hafter]

theorem prettyMembers_nil_append (depth : Nat) (rest : List Char) :
    prettyMembers depth [] ++ rest = newline depth ++ '\x7d' :: rest := by
  rw [prettyMembers, List.append_assoc]
  rfl

theorem prettyMembers_cons_append (depth : Nat) (key : Text) (j : Json)
    (members : List (Text × Json)) (rest : List Char) :
    prettyMembers depth ((key, j) :: members) ++ rest = ',' :: (newline (depth + 1) ++
      keyChars key (j.prettyChars (depth + 1) ++ (prettyMembers depth members ++ rest))) := by
  simp only [prettyMembers, keyChars, List.append_assoc, List.cons_append]

theorem length_prettyMembers_cons (depth : Nat) (key : Text) (j : Json)
    (members : List (Text × Json)) :
    2 + (j.prettyChars (depth + 1)).length + (prettyMembers depth members).length ≤
      (prettyMembers depth ((key, j) :: members)).length := by
  simp [prettyMembers, newline]
  omega

theorem readMembers?_pretty (depth : Nat) (rest : List Char) (members : List (Text × Json)) :
    ∀ (key : Text) (j : Json) (fuel : Nat), ReadsBack j → (∀ m ∈ members, ReadsBack m.2) →
      2 * ((j.prettyChars (depth + 1)).length + (prettyMembers depth members).length) + 1 ≤ fuel →
      readMembers? fuel (keyChars key
        (j.prettyChars (depth + 1) ++ (prettyMembers depth members ++ rest))) =
          some ((key, j) :: members, rest) := by
  induction members with
  | nil =>
    intro key j fuel hj _ hfuel
    obtain ⟨fuel, rfl⟩ : ∃ k, fuel = k + 1 := ⟨fuel - 1, by omega⟩
    have hread := hj (depth + 1) fuel _ (by omega) (endsNumber_prettyMembers depth [] rest)
    refine readMembers?_last hread ?_
    rw [prettyMembers_nil_append, skipBlank_newline, skipBlank_cons (by decide)]
  | cons m members ih =>
    obtain ⟨key', k⟩ := m
    intro key j fuel hj hreads hfuel
    obtain ⟨fuel, rfl⟩ : ∃ k, fuel = k + 1 := ⟨fuel - 1, by omega⟩
    have hread := hj (depth + 1) fuel _ (by omega)
      (endsNumber_prettyMembers depth ((key', k) :: members) rest)
    have hlength := length_prettyMembers_cons depth key' k members
    have hmore := ih key' k fuel (hreads _ List.mem_cons_self)
      (fun m hm => hreads m (List.mem_cons_of_mem _ hm)) (by omega)
    rw [prettyMembers_cons_append] at hread ⊢
    rw [readMembers?_more hread (skipBlank_cons (by decide) _),
      readMembers?_congr (skipBlank_newline (depth + 1) _), hmore]
    rfl

theorem readValue?_object (depth fuel : Nat) (key : Text) (cs : List Char) :
    readValue? (fuel + 1) ('\x7b' :: (newline depth ++ keyChars key cs)) =
      (readMembers? fuel (keyChars key cs)).map fun (members, rest) => (object members, rest) := by
  have hquote (rest : List Char) : skipBlank ('\x22' :: rest) = '\x22' :: rest :=
    skipBlank_cons (by decide) rest
  rw [keyChars_eq, readValue?, skipBlank_cons (by decide)]
  simp only [skipBlank_newline, hquote]
  rfl

theorem prettyChars_object_cons (depth : Nat) (key : Text) (j : Json)
    (members : List (Text × Json)) :
    prettyChars depth (object ((key, j) :: members)) = '\x7b' :: (newline (depth + 1) ++
      keyChars key (j.prettyChars (depth + 1) ++ prettyMembers depth members)) := by
  simp only [prettyChars, keyChars, List.append_assoc, List.cons_append]

theorem readsBack_object {members : List (Text × Json)} (h : ∀ m ∈ members, IsWritten m.2)
    (hreads : ∀ m ∈ members, ReadsBack m.2) : ReadsBack (object members) := by
  refine (IsWritten.object h).readsBack_of_succ fun depth fuel rest hfuel _ => ?_
  rcases members with - | ⟨⟨key, j⟩, members⟩
  · rfl
  · rw [prettyChars_object_cons] at hfuel ⊢
    simp only [keyChars, List.length_cons, List.length_append] at hfuel
    have hread := readMembers?_pretty depth rest members key j fuel (hreads _ List.mem_cons_self)
      (fun m hm => hreads m (List.mem_cons_of_mem _ hm)) (by omega)
    have happend : keyChars key (j.prettyChars (depth + 1) ++ prettyMembers depth members) ++ rest =
        keyChars key (j.prettyChars (depth + 1) ++ (prettyMembers depth members ++ rest)) := by
      simp only [keyChars, List.append_assoc, List.cons_append]
    rw [List.cons_append, List.append_assoc, happend, readValue?_object, hread]
    rfl

/-! ### Whole texts -/

theorem IsWritten.readsBack {j : Json} (h : j.IsWritten) : ReadsBack j := by
  induction h with
  | null => exact IsWritten.null.readsBack_of_succ fun _ _ _ _ _ => rfl
  | bool b => exact (IsWritten.bool b).readsBack_of_succ fun _ _ _ _ _ => by cases b <;> rfl
  | number h => exact readsBack_number h
  | string s => exact readsBack_string s
  | array h ih => exact readsBack_array h ih
  | object h ih => exact readsBack_object h ih

/-- A value is read back from its text. -/
theorem read?_pretty {j : Json} (h : j.IsWritten) : read? j.pretty = some j := by
  have hread := h.readsBack 0 (2 * (j.prettyChars 0).length + 2) [] (by omega)
    fun c hc => by cases hc
  rw [List.append_nil] at hread
  rw [read?, pretty, String.toList_ofList]
  simp only [hread]
  rfl

end BytecodeMutation.Json
