import BytecodeMutation.Decimal.Digits
import BytecodeMutation.Toml.Value

/-! The written forms of TOML numbers. Underscores may stand between digits. -/

namespace BytecodeMutation.Toml

/-! ### Runs of digits -/

/-- Which signs and zeros may begin a run of digits. -/
structure RunForm where
  sign : Bool
  leadingZeros : Bool
  base : Nat := 10

/-- How far a run of digits is read. -/
structure RunState where
  started : Bool := false
  zeroFirst : Bool := false
  afterUnderscore : Bool := false

def digitOf? (base : Nat) (c : Char) : Option Nat :=
  let value? :=
    if '0' ≤ c ∧ c ≤ '9' then some (c.toNat - 48)
    else if 'a' ≤ c ∧ c ≤ 'z' then some (c.toNat - 87)
    else if 'A' ≤ c ∧ c ≤ 'Z' then some (c.toNat - 55)
    else none
  value?.filter (· < base)

/-- Splits digits off a text; they may not be empty nor end with an underscore. -/
def splitDigits? (form : RunForm) : RunState → List Char → Option (List Char × List Char)
  | s, [] => if s.started && !s.afterUnderscore then some ([], []) else none
  | s, c :: rest =>
    if c == '0' && !s.started then
      (splitDigits? form { s with started := true, zeroFirst := true } rest).map
        fun (digits, rest) => (c :: digits, rest)
    else if (digitOf? form.base c).isSome then
      if s.started && s.zeroFirst && !form.leadingZeros then none
      else
        (splitDigits? form { s with started := true, afterUnderscore := false } rest).map
          fun (digits, rest) => (c :: digits, rest)
    else if c == '_' && s.started && !s.afterUnderscore then
      splitDigits? form { s with afterUnderscore := true } rest
    else if c == '_' && !s.started then none
    else if s.started && !s.afterUnderscore then some ([], c :: rest)
    else none

/-- A sign, where the form allows one, and digits. -/
structure SignedRun where
  negative : Bool
  digits : List Char

def splitRun? (form : RunForm) (cs : List Char) : Option (SignedRun × List Char) :=
  let (negative, cs) := match cs with
    | '-' :: rest => if form.sign then (true, rest) else (false, cs)
    | '+' :: rest => if form.sign then (false, rest) else (false, cs)
    | _ => (false, cs)
  (splitDigits? form {} cs).map fun (digits, rest) => (⟨negative, digits⟩, rest)

/-! ### Integers -/

/-- An integer, which has to fit into 64 bits with a sign. -/
def integer? (form : RunForm) (cs : List Char) : Option Value := do
  let (run, rest) ← splitRun? form cs
  if !rest.isEmpty then none
  let size := run.digits.foldl (fun n c => form.base * n + (digitOf? form.base c).getD 0) 0
  let value : Int := if run.negative then -(size : Int) else size
  if -0x8000000000000000 ≤ value && value < 0x8000000000000000 then some (.integer value) else none

def decimalForm : RunForm := ⟨true, false, 10⟩

def baseForm (base : Nat) : RunForm := ⟨false, true, base⟩

/-! ### Fractions -/

/-- Whether a decimal number rounds to a finite one of 64 bits: from half a unit above the largest
of them on it does not. -/
def isFinite (digits : List Char) (exponent : Int) : Bool :=
  let digits := digits.dropWhile (· == '0')
  let magnitude : Int := digits.length + exponent
  if digits.isEmpty || magnitude ≤ 308 then true
  else if 310 ≤ magnitude then false
  else
    let value := Decimal.value digits
    let bound := (1 <<< 1024) - (1 <<< 970)
    if exponent < 0 then value < bound * Decimal.tens (-exponent)
    else value * Decimal.tens exponent < bound

/-- The digits of an exponent with its sign. -/
def exponentOf (run : SignedRun) : Int :=
  if run.negative then -(Decimal.value run.digits : Int) else Decimal.value run.digits

/-- A fraction by its parts. -/
def fraction? (whole : SignedRun) (fraction : List Char) (exponent : Int) : Option Value :=
  if isFinite (whole.digits ++ fraction) (exponent - fraction.length) then some .fraction else none

end BytecodeMutation.Toml
