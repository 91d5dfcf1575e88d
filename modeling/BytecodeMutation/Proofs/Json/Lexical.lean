import BytecodeMutation.Json.Reader
import BytecodeMutation.Json.Writer
import BytecodeMutation.Proofs.Decimal.Digits

/-! Numbers and strings of JSON text. A number of the right form is read back whole wherever it
stands, as long as nothing follows that could belong to it; a string is read back whatever it holds,
since every character that has a meaning in a literal is written as an escape. -/

namespace BytecodeMutation

namespace Json

theorem ne_of_isDigit {c e : Char} (h : c.isDigit = true) (he : e.isDigit = false) : c ≠ e := by
  rintro rfl
  rw [h] at he
  cases he

/-- Whether digits that stand before the text end there. -/
def EndsDigits (rest : List Char) : Prop := ∀ c ∈ rest.head?, c.isDigit = false

/-- Whether a number that stands before the text ends there. -/
def EndsNumber (rest : List Char) : Prop :=
  ∀ c ∈ rest.head?, c.isDigit = false ∧ c ≠ '.' ∧ c ≠ 'e' ∧ c ≠ 'E'

theorem EndsNumber.endsDigits {rest : List Char} (h : EndsNumber rest) : EndsDigits rest :=
  fun c hc => (h c hc).1

theorem readDigits?_append {ds rest : List Char} (hds : ∀ c ∈ ds, c.isDigit = true)
    (hne : ds ≠ []) (hrest : EndsDigits rest) : readDigits? (ds ++ rest) = some (ds, rest) := by
  have hstop : rest.takeWhile Char.isDigit = [] ∧ rest.dropWhile Char.isDigit = rest := by
    cases rest with
    | nil => exact ⟨rfl, rfl⟩
    | cons c rest =>
      have hc : c.isDigit = false := hrest c rfl
      simp [hc]
  rw [readDigits?, List.takeWhile_append_of_pos hds, List.dropWhile_append_of_pos hds, hstop.1,
    hstop.2, List.append_nil]
  simp [hne]

/-! ### Numbers -/

namespace Numeral

/-- Digits with an optional sign, or nothing. -/
def IsExponent (cs : List Char) : Prop :=
  cs = [] ∨ ∃ sign ds, (sign = [] ∨ sign = ['+'] ∨ sign = ['-']) ∧ ds ≠ [] ∧
    (∀ c ∈ ds, c.isDigit = true) ∧ cs = sign ++ ds

/-- Whether the parts of a number have the form that JSON wants. -/
structure IsWritten (n : Numeral) : Prop where
  whole : ∀ c ∈ n.whole, c.isDigit = true
  whole_ne_nil : n.whole ≠ []
  /-- A zero stands alone. -/
  whole_zero : n.whole.head? = some '0' → n.whole = ['0']
  fraction : ∀ c ∈ n.fraction, c.isDigit = true
  exponent : IsExponent n.exponent

theorem isWritten_ofInt (n : Int) : (ofInt n).IsWritten where
  whole _ hc := Decimal.isDigit_of_mem_digits hc
  whole_ne_nil := Decimal.digits_ne_nil _
  whole_zero h := by
    have hzero : n.natAbs = 0 := Decimal.head?_digits h
    change Decimal.digits n.natAbs = ['0']
    rw [hzero]
    decide +kernel
  fraction _ hc := by cases hc
  exponent := .inl rfl

def fractionChars (n : Numeral) : List Char := if n.fraction.isEmpty then [] else '.' :: n.fraction

def exponentChars (n : Numeral) : List Char := if n.exponent.isEmpty then [] else 'e' :: n.exponent

end Numeral

theorem readExponentDigits?_append {sign ds rest : List Char}
    (hsign : sign = [] ∨ sign = ['+'] ∨ sign = ['-']) (hds : ∀ c ∈ ds, c.isDigit = true)
    (hne : ds ≠ []) (hrest : EndsDigits rest) :
    readExponentDigits? (sign ++ ds ++ rest) = some (sign ++ ds, rest) := by
  have hread := readDigits?_append hds hne hrest
  rcases hsign with rfl | rfl | rfl
  · -- a digit in front is no sign
    obtain ⟨d, ds, rfl⟩ := List.exists_cons_of_ne_nil hne
    have hd := hds d List.mem_cons_self
    rw [List.nil_append, List.cons_append, readExponentDigits?]
    · exact hread
    · intro rest hcs
      exact ne_of_isDigit hd rfl (List.cons.inj hcs).1
    · intro rest hcs
      exact ne_of_isDigit hd rfl (List.cons.inj hcs).1
  · change (readDigits? (ds ++ rest)).map _ = _
    rw [hread]
    rfl
  · change (readDigits? (ds ++ rest)).map _ = _
    rw [hread]
    rfl

namespace Numeral

variable {n : Numeral} {rest : List Char}

theorem readExponent?_append (h : IsExponent n.exponent) (hrest : EndsNumber rest) :
    readExponent? (n.exponentChars ++ rest) = some (n.exponent, rest) := by
  unfold exponentChars
  rcases h with h | ⟨sign, ds, hsign, hne, hds, h⟩
  · rw [h]
    cases rest with
    | nil => rfl
    | cons c rest =>
      obtain ⟨-, -, he, hE⟩ := hrest c rfl
      change readExponent? (c :: rest) = _
      rw [readExponent?]
      · intro rest hcs
        exact he (List.cons.inj hcs).1
      · intro rest hcs
        exact hE (List.cons.inj hcs).1
  · have hread := readExponentDigits?_append hsign hds hne hrest.endsDigits
    rw [← h] at hread
    have hfull : n.exponent.isEmpty = false := by simp [h, hne]
    rw [hfull]
    exact hread

theorem endsDigits_exponentChars (hrest : EndsNumber rest) :
    EndsDigits (n.exponentChars ++ rest) := by
  unfold exponentChars
  split
  · exact hrest.endsDigits
  · rintro c ⟨⟩
    decide

theorem head?_exponentChars_ne_point (hrest : EndsNumber rest) :
    ∀ c ∈ (n.exponentChars ++ rest).head?, c ≠ '.' := by
  unfold exponentChars
  split
  · exact fun c hc => (hrest c hc).2.1
  · rintro c ⟨⟩
    decide

theorem readFraction?_append (h : ∀ c ∈ n.fraction, c.isDigit = true) (hrest : EndsNumber rest) :
    readFraction? (n.fractionChars ++ (n.exponentChars ++ rest)) =
      some (n.fraction, n.exponentChars ++ rest) := by
  unfold fractionChars
  cases hn : n.fraction with
  | nil =>
    rw [List.isEmpty_nil, if_pos rfl, List.nil_append, readFraction?]
    intro cs hcs
    exact head?_exponentChars_ne_point hrest '.' (congrArg List.head? hcs) rfl
  | cons d ds =>
    rw [hn] at h
    exact readDigits?_append h (List.cons_ne_nil d ds) (endsDigits_exponentChars hrest)

theorem endsDigits_fractionChars (hrest : EndsNumber rest) :
    EndsDigits (n.fractionChars ++ (n.exponentChars ++ rest)) := by
  unfold fractionChars
  split
  · exact endsDigits_exponentChars hrest
  · rintro c ⟨⟩
    decide

theorem readWhole?_append {whole : List Char} (h : ∀ c ∈ whole, c.isDigit = true)
    (hne : whole ≠ []) (hzero : whole.head? = some '0' → whole = ['0'])
    (hrest : EndsDigits rest) : readWhole? (whole ++ rest) = some (whole, rest) := by
  by_cases hhead : whole.head? = some '0'
  · rw [hzero hhead]
    rfl
  · obtain ⟨d, ds, rfl⟩ := List.exists_cons_of_ne_nil hne
    rw [List.cons_append, readWhole?]
    · exact readDigits?_append h hne hrest
    · intro rest hcs
      exact hhead (congrArg some (List.cons.inj hcs).1)

theorem toChars_eq : n.toChars =
    (if n.negative then ['-'] else []) ++ (n.whole ++ (n.fractionChars ++ n.exponentChars)) := by
  rw [toChars, List.append_assoc, List.append_assoc]
  rfl

theorem readSize?_append (h : n.IsWritten) (hrest : EndsNumber rest) :
    readSize? n.negative (n.whole ++ (n.fractionChars ++ (n.exponentChars ++ rest))) =
      some (n, rest) := by
  simp only [readSize?, readWhole?_append h.whole h.whole_ne_nil h.whole_zero
    (endsDigits_fractionChars hrest), readFraction?_append h.fraction hrest,
    readExponent?_append h.exponent hrest, Option.bind_eq_bind, Option.bind_some]

/-- A number is read back from what it is written as. -/
theorem readNumeral?_append (h : n.IsWritten) (hrest : EndsNumber rest) :
    readNumeral? (n.toChars ++ rest) = some (n, rest) := by
  have hsize := readSize?_append h hrest
  rw [toChars_eq, List.append_assoc, List.append_assoc, List.append_assoc]
  cases hn : n.negative with
  | true =>
    rw [hn] at hsize
    exact hsize
  | false =>
    rw [hn] at hsize
    rw [readNumeral?]
    · exact hsize
    · intro cs hcs
      obtain ⟨d, ds, hds⟩ := List.exists_cons_of_ne_nil h.whole_ne_nil
      have hd := h.whole d (hds ▸ List.mem_cons_self)
      rw [hds] at hcs
      exact ne_of_isDigit hd rfl (List.cons.inj hcs).1

end Numeral

/-! ### Strings -/

theorem hexValue?_hexDigit : ∀ d < 16, hexValue? (Text.hexDigit d) = some d := by decide

/-- Reading on after a character of a literal. -/
def pushUnit (unit : Nat) : Option (List Nat × List Char) → Option (List Nat × List Char) :=
  Option.map fun (units, rest) => (unit :: units, rest)

theorem readUnits?_hex {a b c d : Char} {unit : Nat} (cs : List Char)
    (h : hex4? a b c d = some unit) :
    readUnits? ('\\' :: 'u' :: a :: b :: c :: d :: cs) = pushUnit unit (readUnits? cs) := by
  rw [readUnits?, h]
  cases readUnits? cs <;> rfl

theorem readUnits?_short {e c : Char} (cs : List Char) (h : unescape? e = some c) :
    readUnits? ('\\' :: e :: cs) = pushUnit c.toNat (readUnits? cs) := by
  rw [readUnits?, h]
  · cases readUnits? cs <;> rfl
  · rintro _ _ _ _ _ rfl
    cases h

theorem readUnits?_plain {c : Char} (cs : List Char) (hquote : c ≠ '\x22') (hslash : c ≠ '\\')
    (h : ¬ c.toNat < 32) : readUnits? (c :: cs) = pushUnit c.toNat (readUnits? cs) := by
  rw [readUnits?]
  · rw [if_neg (by simp [h, hslash])]
    cases readUnits? cs <;> rfl
  · exact hquote
  · exact fun _ _ _ _ _ hc => absurd hc hslash
  · exact fun _ _ hc => absurd hc hslash

/-- An escaped character is read as its code point. -/
theorem readUnits?_escape (c : Char) (cs : List Char) :
    readUnits? (escape c ++ cs) = pushUnit c.toNat (readUnits? cs) := by
  unfold escape
  split
  case h_8 hquote hslash _ _ _ _ _ =>
    split
    · -- a control character by its number
      rename_i hc
      have hhigh := hexValue?_hexDigit (c.toNat / 16) (by omega)
      have hlow := hexValue?_hexDigit (c.toNat % 16) (by omega)
      refine readUnits?_hex cs ?_
      have hzero : hexValue? '0' = some 0 := by decide
      simp only [hex4?, hhigh, hlow, hzero, Option.bind_eq_bind, Option.bind_some]
      congr 1
      omega
    · exact readUnits?_plain cs hquote hslash ‹_›
  all_goals exact readUnits?_short cs rfl

theorem readUnits?_literal (cs rest : List Char) :
    readUnits? (cs.flatMap escape ++ '\x22' :: rest) = some (cs.map Char.toNat, rest) := by
  induction cs with
  | nil => rw [List.flatMap_nil, List.nil_append, readUnits?, List.map_nil]
  | cons c cs ih =>
    rw [List.flatMap_cons, List.append_assoc, readUnits?_escape, ih]
    rfl

theorem joinUnits?_cons {u : Nat} (us : List Nat) (hlead : isLead u = false)
    (htrail : isTrail u = false) :
    joinUnits? (u :: us) = (joinUnits? us).map (Char.ofNat u :: ·) := by
  cases us with
  | nil => simp [joinUnits?, hlead, htrail]
  | cons v us => simp [joinUnits?, hlead, htrail]

/-- No character is half of a surrogate pair. -/
theorem isLead_toNat (c : Char) : isLead c.toNat = false ∧ isTrail c.toNat = false := by
  have hc : c.toNat < 0xd800 ∨ 0xdfff < c.toNat ∧ c.toNat < 0x110000 := c.valid
  simp only [isLead, isTrail, Bool.and_eq_false_iff, decide_eq_false_iff_not]
  omega

theorem joinUnits?_map (cs : List Char) : joinUnits? (cs.map Char.toNat) = some cs := by
  induction cs with
  | nil => rfl
  | cons c cs ih =>
    obtain ⟨hlead, htrail⟩ := isLead_toNat c
    rw [List.map_cons, joinUnits?_cons _ hlead htrail, ih, Option.map_some, Char.ofNat_toNat]

namespace Text

/-- What stands between the quotes. -/
def innerChars : Text → List Char
  | some s => s.toList.flatMap escape
  | none => "\\ud800".toList

theorem toChars_append (t : Text) (rest : List Char) :
    t.toChars ++ rest = '\x22' :: (t.innerChars ++ '\x22' :: rest) := by
  cases t with
  | none => rfl
  | some s =>
    change '\x22' :: s.toList.flatMap escape ++ ['\x22'] ++ rest = _
    rw [List.append_assoc]
    rfl

/-- A text is read back from its literal. -/
theorem readText?_innerChars (t : Text) (rest : List Char) :
    readText? (t.innerChars ++ '\x22' :: rest) = some (t, rest) := by
  cases t with
  | none => rfl
  | some s =>
    have hjoin := joinUnits?_map s.toList
    rw [innerChars, readText?, readUnits?_literal, Option.bind_eq_bind, Option.bind_some]
    simp only [hjoin, Option.map_some, String.ofList_toList]

end Text

end Json

end BytecodeMutation
