import BytecodeMutation.Binary.Basic

/-! The exact value behind the bits of a binary floating-point number: sign, significand and power
of two. -/

namespace BytecodeMutation.Binary

/-- The sizes of the fields of a binary format: stored significand bits and exponent bits. -/
structure Layout where
  fractionBits : Nat
  exponentBits : Nat

namespace Layout

def binary32 : Layout := ⟨23, 8⟩

def binary64 : Layout := ⟨52, 11⟩

/-- The power of two of the last place of a subnormal number. -/
def leastExponent (l : Layout) : Int :=
  2 - ((1 <<< (l.exponentBits - 1) : Nat) : Int) - l.fractionBits

end Layout

/-- A number as its bits give it. The value of a finite one is `significand * 2 ^ exponent`. -/
inductive Unpacked where
  | finite (negative : Bool) (significand : Nat) (exponent : Int)
  | infinite (negative : Bool)
  | notANumber
  deriving DecidableEq, Inhabited

def Layout.unpack (l : Layout) (bits : Nat) : Unpacked :=
  let fraction := bits % (1 <<< l.fractionBits)
  let biased := (bits >>> l.fractionBits) % (1 <<< l.exponentBits)
  let negative := (bits >>> (l.fractionBits + l.exponentBits)) % 2 == 1
  if biased = (1 <<< l.exponentBits) - 1 then
    if fraction = 0 then .infinite negative else .notANumber
  else if biased = 0 then .finite negative fraction l.leastExponent
  else .finite negative ((1 <<< l.fractionBits) + fraction) (l.leastExponent + (biased - 1))

/-- The integer nearest to zero among those next to the number, kept between the least and the
greatest 32-bit integer. -/
def Unpacked.toInt32 : Unpacked → Int
  | finite negative m e =>
    let size : Nat := if 0 ≤ e then m <<< min e.toNat 64 else m >>> (-e).toNat
    if negative then max (-(size : Int)) (-2147483648) else min (size : Int) 2147483647
  | infinite negative => if negative then -2147483648 else 2147483647
  | notANumber => 0

end Binary

def Binary32.unpack (x : Binary32) : Binary.Unpacked := Binary.Layout.binary32.unpack x.bits.toNat

def Binary64.unpack (x : Binary64) : Binary.Unpacked := Binary.Layout.binary64.unpack x.bits.toNat

end BytecodeMutation
