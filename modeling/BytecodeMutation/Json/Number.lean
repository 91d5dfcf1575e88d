import BytecodeMutation.Binary.Layout
import BytecodeMutation.Decimal.Form
import BytecodeMutation.Json.Basic

/-! Floating-point numbers in JSON. Reading gathers digits into a significand of 64 bits and scales
it by powers of ten in floating-point arithmetic, so that a number of many digits or of a large
exponent may differ from the nearest one in its last place. Numbers beyond the 64-bit range are
refused; digits that no longer fit the significand count as zeros. -/

namespace BytecodeMutation.Json

/-- A significand of at most 64 bits and a decimal exponent. -/
structure Scale where
  significand : Nat
  exponent : Int

/-- Whether a further digit overflows the significand. -/
def Scale.isFull (s : Scale) (d : Char) : Bool :=
  0x10000000000000000 ≤ s.significand * 10 + Decimal.digitValue d

/-- Digits before the point: once one does not fit, all that follow count as zeros. -/
def Scale.pushWhole (s : Scale) : List Char → Scale
  | [] => s
  | d :: ds =>
    if s.isFull d then { s with exponent := s.exponent + (d :: ds).length }
    else Scale.pushWhole { s with significand := s.significand * 10 + Decimal.digitValue d } ds

/-- Digits after the point: from the first one that does not fit, all are dropped. -/
def Scale.pushFraction (s : Scale) : List Char → Scale
  | [] => s
  | d :: ds =>
    if s.isFull d then s
    else Scale.pushFraction ⟨s.significand * 10 + Decimal.digitValue d, s.exponent - 1⟩ ds

def powerOfTen (e : Nat) : Float := Float.ofScientific 1 false e

/-- Divides by `10 ^ e` in steps of at most 308. -/
def scaleDown (x : Float) (e : Nat) : Float :=
  if e ≤ 308 then x / powerOfTen e
  else if x == 0 then x
  else scaleDown (x / powerOfTen 308) (e - 308)
termination_by e

def Scale.toFloat? (s : Scale) : Option Float :=
  let x := s.significand.toUInt64.toFloat
  if s.exponent < 0 then some (scaleDown x (-s.exponent).toNat)
  else if s.exponent ≤ 308 then
    let y := x * powerOfTen s.exponent.toNat
    if y.isInf then none else some y
  else if x == 0 then some x
  else none

/-- The written exponent as sign and size. -/
def exponentParts : List Char → Bool × Nat
  | '-' :: ds => (true, Decimal.value ds)
  | '+' :: ds => (false, Decimal.value ds)
  | ds => (false, Decimal.value ds)

namespace Numeral

/-- The value of a number of any form. -/
def toFloat? (n : Numeral) : Option Float :=
  let s := Scale.pushFraction (Scale.pushWhole ⟨0, 0⟩ n.whole) n.fraction
  let (down, size) := exponentParts n.exponent
  let magnitude? :=
    if 0x80000000 ≤ size then if s.significand = 0 || down then some 0 else none
    else Scale.toFloat? { s with exponent := if down then s.exponent - size else s.exponent + size }
  magnitude?.map fun x => if n.negative then -x else x

/-- An integer that fits 64 bits, with sign if negative. -/
def word? (n : Numeral) : Option Int :=
  n.int?.filter fun v => -0x8000000000000000 ≤ v && v < 0x10000000000000000

def toBinary64? (n : Numeral) : Option Binary64 := n.toFloat?.map Binary64.ofFloat

/-- An integer is rounded once; any other number first to 64 bits, then to 32. -/
def toBinary32? (n : Numeral) : Option Binary32 :=
  match n.word? with
  | some v =>
    some (.ofFloat (if v < 0 then -(-v).toNat.toUInt64.toFloat32 else v.toNat.toUInt64.toFloat32))
  | none => n.toFloat?.map fun x => .ofFloat x.toFloat32

/-- Splits the text of a number at its point and exponent mark. -/
def ofFloatText (cs : List Char) : Numeral :=
  let (negative, cs) := match cs with
    | '-' :: cs => (true, cs)
    | cs => (false, cs)
  let mantissa := cs.takeWhile (· != 'e')
  { negative
    whole := mantissa.takeWhile (· != '.')
    fraction := (mantissa.dropWhile (· != '.')).drop 1
    exponent := (cs.dropWhile (· != 'e')).drop 1 }

end Numeral

def binary64? : Json → Option Binary64
  | number n => n.toBinary64?
  | _ => none

def binary32? : Json → Option Binary32
  | number n => n.toBinary32?
  | _ => none

/-- Infinities are written as null. -/
def ofUnpacked (form : Decimal.Form) (l : Binary.Layout) (x : Binary.Unpacked) : Json :=
  match form.finite? l x with
  | some cs => number (Numeral.ofFloatText cs)
  | none => null

def ofBinary32 (x : Binary32) : Json := ofUnpacked .json32 .binary32 x.unpack

def ofBinary64 (x : Binary64) : Json := ofUnpacked .json64 .binary64 x.unpack

end BytecodeMutation.Json
