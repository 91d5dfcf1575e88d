import BytecodeMutation.Json.Basic
import BytecodeMutation.Text.Quoted

/-! JSON text: on one line without blanks, or over several lines with two blanks for every level.
Inside strings the quote, the backslash and the control characters are escaped; all other
characters are written as they are. -/

namespace BytecodeMutation.Json

def Numeral.toChars (n : Numeral) : List Char :=
  (if n.negative then ['-'] else []) ++ n.whole ++
    (if n.fraction.isEmpty then [] else '.' :: n.fraction) ++
    (if n.exponent.isEmpty then [] else 'e' :: n.exponent)

/-- One character inside a string literal. -/
def escape (c : Char) : List Char :=
  match c with
  | '\x22' => ['\\', '\x22']
  | '\\' => ['\\', '\\']
  | '\x08' => ['\\', 'b']
  | '\x0c' => ['\\', 'f']
  | '\n' => ['\\', 'n']
  | '\r' => ['\\', 'r']
  | '\t' => ['\\', 't']
  | c =>
    if c.toNat < 32 then
      ['\\', 'u', '0', '0', Text.hexDigit (c.toNat / 16), Text.hexDigit (c.toNat % 16)]
    else [c]

def literal (s : String) : List Char := '\x22' :: s.toList.flatMap escape ++ ['\x22']

/-- A text, or an escaped half of a surrogate pair in the place of one that has no text. -/
def Text.toChars : Text → List Char
  | some s => literal s
  | none => '\x22' :: "\\ud800".toList ++ ['\x22']

def atomChars : Json → List Char
  | null => ['n', 'u', 'l', 'l']
  | bool true => ['t', 'r', 'u', 'e']
  | bool false => ['f', 'a', 'l', 's', 'e']
  | number n => n.toChars
  | string s => s.toChars
  | array _ => []
  | object _ => []

/-! ### On one line -/

mutual

def compactChars : Json → List Char
  | array items => '[' :: compactItems items
  | object members => '\x7b' :: compactMembers members
  | j => atomChars j

/-- The items of a list and the closing bracket. -/
def compactItems : List Json → List Char
  | [] => [']']
  | [j] => compactChars j ++ [']']
  | j :: k :: rest => compactChars j ++ ',' :: compactItems (k :: rest)

/-- The members of an object and the closing brace. -/
def compactMembers : List (Text × Json) → List Char
  | [] => ['\x7d']
  | [(key, j)] => key.toChars ++ ':' :: compactChars j ++ ['\x7d']
  | (key, j) :: m :: rest =>
    key.toChars ++ ':' :: compactChars j ++ ',' :: compactMembers (m :: rest)

end

def compact (j : Json) : String := String.ofList j.compactChars

/-! ### Over several lines -/

def newline (depth : Nat) : List Char := '\n' :: List.replicate (2 * depth) ' '

mutual

def prettyChars (depth : Nat) : Json → List Char
  | array [] => ['[', ']']
  | array (j :: rest) =>
    '[' :: newline (depth + 1) ++ prettyChars (depth + 1) j ++ prettyItems depth rest
  | object [] => ['\x7b', '\x7d']
  | object ((key, j) :: rest) =>
    '\x7b' :: newline (depth + 1) ++ key.toChars ++ ':' :: ' ' :: prettyChars (depth + 1) j ++
      prettyMembers depth rest
  | j => atomChars j

/-- The items after the first and the closing bracket. -/
def prettyItems (depth : Nat) : List Json → List Char
  | [] => newline depth ++ [']']
  | j :: rest => ',' :: newline (depth + 1) ++ prettyChars (depth + 1) j ++ prettyItems depth rest

/-- The members after the first and the closing brace. -/
def prettyMembers (depth : Nat) : List (Text × Json) → List Char
  | [] => newline depth ++ ['\x7d']
  | (key, j) :: rest =>
    ',' :: newline (depth + 1) ++ key.toChars ++ ':' :: ' ' :: prettyChars (depth + 1) j ++
      prettyMembers depth rest

end

def pretty (j : Json) : String := String.ofList (j.prettyChars 0)

end BytecodeMutation.Json
