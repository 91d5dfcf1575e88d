import BytecodeMutation.Binary.Layout
import BytecodeMutation.Decimal.Digits

/-! The decimal with the fewest digits that reads back as a given binary number, and the nearest of
those. The numbers that read back form an interval around the value, which holds its ends exactly
when the significand is even. For one digit, two digits and so on the two neighbours of the value
among the decimals of that many digits are tried. -/

namespace BytecodeMutation.Decimal

/-- The number `digits * 10 ^ exponent`. -/
structure Scaled where
  digits : Nat
  exponent : Int
  deriving DecidableEq, Inhabited

/-- Which of two equally near decimals is taken. -/
inductive Tie where
  | even
  | up
  deriving DecidableEq, Inhabited

/-- A positive number `num / den` with the bounds of the interval that reads back as it. -/
structure Target where
  num : Nat
  den : Nat
  low : Nat
  high : Nat
  closed : Bool

/-- The value `m * 2 ^ e` over a denominator that makes the half steps to its neighbours whole. The
step below a power of two is half as long, except at the least exponent. -/
def Target.of (l : Binary.Layout) (m : Nat) (e : Int) : Target :=
  let up := 1 <<< e.toNat
  let den := 4 <<< (-e).toNat
  let below := if m = 1 <<< l.fractionBits ∧ e ≠ l.leastExponent then 1 else 2
  { num := 4 * m * up, den, low := (4 * m - below) * up, high := (4 * m + 2) * up,
    closed := m % 2 == 0 }

/-- Whether `a / b` lies in the interval. -/
def Target.admits (t : Target) (a b : Nat) : Bool :=
  let x := a * t.den
  if t.closed then t.low * b ≤ x && x ≤ t.high * b else t.low * b < x && x < t.high * b

/-- The greatest `k` with `10 ^ k ≤ num / den`. -/
def Target.magnitude (t : Target) : Int :=
  let k : Int := (digits t.num).length - (digits t.den).length
  if t.den * tens k ≤ t.num * tens (-k) then k else k - 1

/-- The better of the two decimals next to the value on the grid of the multiples of `10 ^ k`. -/
def Target.onGrid? (t : Target) (tie : Tie) (k : Int) : Option Nat :=
  let up := tens k
  let down := tens (-k)
  let d := t.num * down / (t.den * up)
  let lower := 0 < d && t.admits (d * up) down
  let upper := t.admits ((d + 1) * up) down
  if lower && upper then
    let twice := 2 * t.num * down
    let middle := (2 * d + 1) * (t.den * up)
    if twice < middle then some d
    else if middle < twice then some (d + 1)
    else match tie with
      | .even => some (if d % 2 = 0 then d else d + 1)
      | .up => some (d + 1)
  else if lower then some d
  else if upper then some (d + 1)
  else none

/-- Tries the grids from `10 ^ k` down to finer ones. -/
def Target.search (t : Target) (tie : Tie) : Nat → Int → Scaled
  | 0, k => ⟨t.num * tens (-k) / (t.den * tens k), k⟩
  | n + 1, k =>
    match t.onGrid? tie k with
    | some d => ⟨d, k⟩
    | none => t.search tie n (k - 1)

/-- Moves trailing zeros into the exponent. -/
def Scaled.strip (s : Scaled) : Scaled :=
  if s.digits ≠ 0 ∧ s.digits % 10 = 0 then strip ⟨s.digits / 10, s.exponent + 1⟩ else s
termination_by s.digits
decreasing_by omega

/-- The shortest decimal for the positive number `m * 2 ^ e` of the layout; seventeen digits are
enough for the widest one. -/
def shortest (l : Binary.Layout) (tie : Tie) (m : Nat) (e : Int) : Scaled :=
  let t := Target.of l m e
  (t.search tie 17 t.magnitude).strip

end BytecodeMutation.Decimal
