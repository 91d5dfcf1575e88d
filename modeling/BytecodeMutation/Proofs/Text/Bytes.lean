import Mathlib.Data.List.Lex
import Mathlib.Data.String.Basic

/-! The order of texts. Texts are compared character by character, and a character of a smaller
number has smaller bytes in UTF-8: a longer code begins with a greater byte, and codes of one length
hold the digits of the number from the highest down. So texts are in the order of their bytes. -/

namespace BytecodeMutation.Text

/-- The bytes of a text in UTF-8. -/
def bytes (s : String) : List UInt8 := s.toByteArray.data.toList

theorem bytes_eq_flatMap (s : String) : bytes s = s.toList.flatMap String.utf8EncodeChar := by
  rw [bytes, ← String.utf8Encode_toList, List.utf8Encode, List.data_toByteArray,
    List.toList_toArray]

/-! ### Characters -/

/-- A number of which the lowest digits to the base 64 are continuation bytes, below a byte with all
that is left of it. -/
def leadAndTail (lead : Nat) : Nat → Nat → List UInt8
  | 0, n => [UInt8.ofNat (n + lead)]
  | k + 1, n => leadAndTail lead k (n / 64) ++ [UInt8.ofNat (n % 64 + 0x80)]

/-- How many continuation bytes a character of this number has. -/
def tailLength (n : Nat) : Nat :=
  if n ≤ 0x7f then 0 else if n ≤ 0x7ff then 1 else if n ≤ 0xffff then 2 else 3

/-- What is added to the first of that many bytes. -/
def leadOf : Nat → Nat
  | 0 => 0
  | 1 => 0xc0
  | 2 => 0xe0
  | _ => 0xf0

theorem val_lt (c : Char) : c.val.toNat < 0x110000 := by
  rcases c.valid with h | h
  · exact h.trans (by decide)
  · exact h.2

theorem utf8EncodeChar_eq (c : Char) : String.utf8EncodeChar c =
    leadAndTail (leadOf (tailLength c.val.toNat)) (tailLength c.val.toNat) c.val.toNat := by
  have hc := val_lt c
  unfold String.utf8EncodeChar
  generalize c.val.toNat = n at *
  unfold tailLength
  dsimp only
  split_ifs
  · rfl
  · have hlead : n / 64 % 0x20 = n / 64 := Nat.mod_eq_of_lt (by omega)
    simp [leadAndTail, leadOf, hlead]
  · have hlead : n / 4096 % 0x10 = n / 4096 := Nat.mod_eq_of_lt (by omega)
    simp [leadAndTail, leadOf, Nat.div_div_eq_div_mul, hlead]
  · have hlead : n / 262144 % 8 = n / 262144 := Nat.mod_eq_of_lt (by omega)
    simp [leadAndTail, leadOf, Nat.div_div_eq_div_mul, hlead]

theorem tailLength_mono {m n : Nat} (h : m ≤ n) : tailLength m ≤ tailLength n := by
  unfold tailLength
  split_ifs <;> omega

/-- Longer codes begin with greater bytes. -/
theorem lead_lt_leadOf {m n : Nat} (h : tailLength m < tailLength n) :
    m / 64 ^ tailLength m + leadOf (tailLength m) < leadOf (tailLength n) := by
  unfold tailLength at *
  split_ifs at * <;> simp only [leadOf] <;> omega

theorem lead_lt_byte {n : Nat} (h : n < 0x110000) :
    n / 64 ^ tailLength n + leadOf (tailLength n) < 256 := by
  unfold tailLength
  split_ifs <;> simp only [leadOf] <;> omega

theorem exists_leadAndTail_eq_cons (lead k n : Nat) :
    ∃ tail, leadAndTail lead k n = UInt8.ofNat (n / 64 ^ k + lead) :: tail := by
  induction k generalizing n with
  | zero => exact ⟨[], by simp [leadAndTail]⟩
  | succ k ih =>
    obtain ⟨tail, htail⟩ := ih (n / 64)
    refine ⟨tail ++ [UInt8.ofNat (n % 64 + 0x80)], ?_⟩
    rw [leadAndTail, htail, Nat.div_div_eq_div_mul, ← Nat.pow_succ']
    rfl

theorem ofNat_lt_ofNat {m n : Nat} (h : m < n) (hn : n < 256) : UInt8.ofNat m < UInt8.ofNat n := by
  rw [UInt8.lt_iff_toNat_lt, UInt8.toNat_ofNat_of_lt' (h.trans hn), UInt8.toNat_ofNat_of_lt' hn]
  exact h

theorem digits_lt {m n : Nat} (h : m < n) (base : Nat) :
    m / base < n / base ∨ m / base = n / base ∧ m % base < n % base := by
  rcases (Nat.div_le_div_right h.le : m / base ≤ n / base).lt_or_eq with hlt | heq
  · exact .inl hlt
  · have hm := Nat.div_add_mod m base
    have hn := Nat.div_add_mod n base
    rw [heq] at hm
    exact .inr ⟨heq, by omega⟩

/-- Of codes of one length the one of the smaller number is smaller, whatever follows them. -/
theorem leadAndTail_append_lt {lead k m n : Nat} (h : m < n) (hn : n / 64 ^ k + lead < 256)
    (xs ys : List UInt8) : leadAndTail lead k m ++ xs < leadAndTail lead k n ++ ys := by
  induction k generalizing m n xs ys with
  | zero =>
    rw [Nat.pow_zero, Nat.div_one] at hn
    exact List.Lex.rel (ofNat_lt_ofNat (Nat.add_lt_add_right h lead) hn)
  | succ k ih =>
    rw [Nat.pow_succ', ← Nat.div_div_eq_div_mul] at hn
    rw [leadAndTail, leadAndTail, List.append_assoc, List.append_assoc]
    rcases digits_lt h 64 with hlt | ⟨heq, hlt⟩
    · exact ih hlt hn _ _
    · rw [heq]
      exact List.Lex.append_left _ (.rel (ofNat_lt_ofNat (by omega) (by omega))) _

/-- A character of a smaller number has smaller bytes, whatever follows them. -/
theorem utf8EncodeChar_append_lt {c d : Char} (h : c < d) (xs ys : List UInt8) :
    String.utf8EncodeChar c ++ xs < String.utf8EncodeChar d ++ ys := by
  have hcd : c.val.toNat < d.val.toNat := h
  have hd := lead_lt_byte (val_lt d)
  rw [utf8EncodeChar_eq, utf8EncodeChar_eq]
  rcases (tailLength_mono hcd.le).eq_or_lt with heq | hlt
  · rw [heq]
    exact leadAndTail_append_lt hcd hd xs ys
  · obtain ⟨tail, htail⟩ := exists_leadAndTail_eq_cons (leadOf (tailLength c.val.toNat))
      (tailLength c.val.toNat) c.val.toNat
    obtain ⟨tail', htail'⟩ := exists_leadAndTail_eq_cons (leadOf (tailLength d.val.toNat))
      (tailLength d.val.toNat) d.val.toNat
    rw [htail, htail']
    exact List.Lex.rel (ofNat_lt_ofNat ((lead_lt_leadOf hlt).trans_le (Nat.le_add_left _ _)) hd)

/-! ### Texts -/

/-- Lists are in the order of their codes. -/
theorem flatMap_lt_flatMap {α β : Type} [LT α] [LT β] {f : α → List β}
    (hf : ∀ a b, a < b → ∀ xs ys, f a ++ xs < f b ++ ys) (hne : ∀ a, f a ≠ []) {as bs : List α}
    (h : as < bs) : as.flatMap f < bs.flatMap f := by
  induction h with
  | nil =>
    rename_i b bs
    obtain ⟨x, xs, hb⟩ := List.exists_cons_of_ne_nil (hne b)
    rw [List.flatMap_cons, hb]
    exact List.nil_lt_cons x _
  | cons _ ih => exact List.Lex.append_left _ ih _
  | rel h => exact hf _ _ h _ _

/-- Texts are in the order of their bytes. -/
theorem bytes_lt_iff {s t : String} : bytes s < bytes t ↔ s < t := by
  have hlt : ∀ {s t : String}, s < t → bytes s < bytes t := by
    intro s t h
    rw [bytes_eq_flatMap, bytes_eq_flatMap]
    exact flatMap_lt_flatMap (fun _ _ => utf8EncodeChar_append_lt)
      (fun _ => String.utf8EncodeChar_ne_nil) h
  refine ⟨fun h => ?_, hlt⟩
  by_contra hnot
  rcases (not_lt.1 hnot).eq_or_lt with heq | hts
  · exact List.lt_irrefl _ (heq ▸ h)
  · exact List.lt_asymm h (hlt hts)

end BytecodeMutation.Text
