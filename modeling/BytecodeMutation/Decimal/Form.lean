import BytecodeMutation.Decimal.Shortest

/-! Written forms of floating-point numbers. A form fixes which decimal exponents are written
positionally, how an exponent is marked, and how ties between shortest decimals go; a positional
number always has a point with a digit after it. -/

namespace BytecodeMutation.Decimal

structure Form where
  /-- The least exponent of a leading digit that is written positionally. -/
  least : Int
  /-- The greatest exponent of a leading digit that is written positionally. -/
  greatest : Int
  /-- Whether a plus sign stands before a positive exponent. -/
  plus : Bool
  tie : Tie

namespace Form

/-- The form of mnemonics and descriptions: from `0.0001` to just below `1e16` positional. -/
def display : Form := ⟨-4, 15, false, .up⟩

/-- The form of 64-bit numbers in JSON: from `0.00001` to just below `1e+16` positional. -/
def json64 : Form := ⟨-5, 15, true, .even⟩

/-- The form of 32-bit numbers in JSON: from `0.000001` to just below `1e+13` positional. -/
def json32 : Form := ⟨-6, 12, true, .even⟩

/-- Writes a positive number in its digits and the exponent of the first of them. -/
def positional (ds : List Char) (lead : Int) : List Char :=
  if lead < 0 then
    '0' :: '.' :: List.replicate (-lead - 1).toNat '0' ++ ds
  else
    let whole := lead.toNat + 1
    let fraction := ds.drop whole
    ds.take whole ++ List.replicate (whole - ds.length) '0' ++
      '.' :: (if fraction.isEmpty then ['0'] else fraction)

def scientific (f : Form) (ds : List Char) (lead : Int) : List Char :=
  let mantissa := match ds with
    | d :: e :: es => d :: '.' :: e :: es
    | ds => ds
  mantissa ++ 'e' :: (if f.plus ∧ 0 ≤ lead then ['+'] else []) ++ ofInt lead

def scaled (f : Form) (s : Scaled) : List Char :=
  let ds := digits s.digits
  let lead := s.exponent + ds.length - 1
  if f.least ≤ lead ∧ lead ≤ f.greatest then positional ds lead else f.scientific ds lead

/-- The text of a number; infinities and the undefined number have none here. -/
def finite? (f : Form) (l : Binary.Layout) : Binary.Unpacked → Option (List Char)
  | .finite negative m e =>
    let size := if m = 0 then ['0', '.', '0'] else f.scaled (shortest l f.tie m e)
    some (if negative then '-' :: size else size)
  | _ => none

/-- The text of any number, with words for those that have no digits. -/
def text (f : Form) (l : Binary.Layout) (x : Binary.Unpacked) : String :=
  match f.finite? l x with
  | some cs => String.ofList cs
  | none => match x with
    | .infinite true => "-inf"
    | .infinite false => "inf"
    | _ => "NaN"

end Form

end Decimal

/-- The text of the number in mnemonics and descriptions. -/
def Binary32.text (x : Binary32) : String := Decimal.Form.display.text .binary32 x.unpack

/-- The text of the number in mnemonics and descriptions. -/
def Binary64.text (x : Binary64) : String := Decimal.Form.display.text .binary64 x.unpack

end BytecodeMutation
