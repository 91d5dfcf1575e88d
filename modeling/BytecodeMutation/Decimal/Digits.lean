/-! Whole numbers in decimal digits, without leading zeros, and the value of a list of digits. -/

namespace BytecodeMutation.Decimal

def digitChar (d : Nat) : Char := Char.ofNat (48 + d)

def digitValue (c : Char) : Nat := c.toNat - 48

/-- The digits of a number, most significant first. -/
def digits (n : Nat) : List Char :=
  if n < 10 then [digitChar n] else digits (n / 10) ++ [digitChar (n % 10)]
termination_by n

/-- The number that a list of digits stands for; leading zeros change nothing. -/
def value (cs : List Char) : Nat := cs.foldl (fun v c => 10 * v + digitValue c) 0

/-- A power of ten; one for a negative exponent. -/
def tens (exponent : Int) : Nat := Nat.pow 10 exponent.toNat

theorem digitValue_digitChar {d : Nat} (h : d < 10) : digitValue (digitChar d) = d := by
  have h' : d = 0 ∨ d = 1 ∨ d = 2 ∨ d = 3 ∨ d = 4 ∨ d = 5 ∨ d = 6 ∨ d = 7 ∨ d = 8 ∨ d = 9 := by
    omega
  rcases h' with rfl | rfl | rfl | rfl | rfl | rfl | rfl | rfl | rfl | rfl <;> rfl

theorem value_append_singleton (cs : List Char) (c : Char) :
    value (cs ++ [c]) = 10 * value cs + digitValue c := by
  simp [value, List.foldl_append]

theorem value_digits (n : Nat) : value (digits n) = n := by
  induction n using Nat.strongRecOn with
  | ind n ih =>
    rw [digits]
    split
    · rename_i h
      simp [value, digitValue_digitChar h]
    · rename_i h
      rw [value_append_singleton, ih (n / 10) (by omega),
        digitValue_digitChar (Nat.mod_lt _ (by omega))]
      omega

/-- The written form of an integer: a minus sign before the digits of a negative one. -/
def ofInt (n : Int) : List Char :=
  if n < 0 then '-' :: digits n.natAbs else digits n.natAbs

def natText (n : Nat) : String := String.ofList (digits n)

def intText (n : Int) : String := String.ofList (ofInt n)

/-- The number of less than 65 bits that a text consists of; a plus sign may precede its digits. -/
def word? (text : String) : Option Nat :=
  let digits := match text.toList with
    | '+' :: rest => rest
    | cs => cs
  if digits.isEmpty || !digits.all Char.isDigit then none
  else if value digits < 0x10000000000000000 then some (value digits)
  else none

end BytecodeMutation.Decimal
