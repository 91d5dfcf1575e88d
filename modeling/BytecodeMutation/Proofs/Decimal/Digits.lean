import BytecodeMutation.Decimal.Digits
import Mathlib.Logic.Function.Defs

/-! The digits of a number. There is one at least, each of them is one of the ten, only zero begins
with a zero, and no two numbers have the same digits. They are the usual ones. -/

namespace BytecodeMutation.Decimal

theorem isDigit_digitChar : ∀ d < 10, (digitChar d).isDigit = true := by decide

theorem isDigit_of_mem_digits {n : Nat} {c : Char} (h : c ∈ digits n) : c.isDigit = true := by
  induction n using Nat.strongRecOn with
  | ind n ih =>
    rw [digits] at h
    split at h
    · rename_i hn
      rw [List.mem_singleton.1 h]
      exact isDigit_digitChar n hn
    · rcases List.mem_append.1 h with h | h
      · exact ih (n / 10) (by omega) h
      · rw [List.mem_singleton.1 h]
        exact isDigit_digitChar _ (Nat.mod_lt n (by omega))

theorem digits_ne_nil (n : Nat) : digits n ≠ [] := by
  rw [digits]
  split <;> simp

/-- Only the number zero is written with a zero in front. -/
theorem head?_digits {n : Nat} (h : (digits n).head? = some '0') : n = 0 := by
  induction n using Nat.strongRecOn with
  | ind n ih =>
    rw [digits] at h
    split at h
    · rename_i hn
      have hzero : ∀ d < 10, digitChar d = '0' → d = 0 := by decide
      exact hzero n hn (by simpa using h)
    · obtain ⟨c, cs, hcs⟩ := List.exists_cons_of_ne_nil (digits_ne_nil (n / 10))
      have hzero := ih (n / 10) (by omega) (by simpa [hcs] using h)
      omega

theorem notMem_digits {c : Char} (hc : c.isDigit = false) (n : Nat) : c ∉ digits n := fun h => by
  rw [isDigit_of_mem_digits h] at hc
  cases hc

theorem digits_injective : Function.Injective digits := fun m n h => by
  rw [← value_digits m, h, value_digits]

theorem digits_eq_toDigits (n : Nat) : digits n = Nat.toDigits 10 n := by
  have hchar : ∀ d < 10, digitChar d = Nat.digitChar d := by decide
  induction n using Nat.strongRecOn with
  | ind n ih =>
    rw [digits]
    split
    · rename_i hn
      rw [hchar n hn, Nat.toDigits_of_lt_base hn]
    · rename_i hn
      rw [ih (n / 10) (by omega), hchar _ (Nat.mod_lt n (by omega)),
        Nat.toDigits_of_base_le (by omega) (Nat.not_lt.1 hn)]

theorem natText_eq_toString (n : Nat) : natText n = toString n := by
  rw [natText, digits_eq_toDigits]
  exact Nat.repr_eq_ofList_toDigits.symm

end BytecodeMutation.Decimal
