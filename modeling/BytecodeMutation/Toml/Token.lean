/-! The tokens of a TOML text. A carriage return counts only as the first half of a line end. -/

namespace BytecodeMutation.Toml

inductive Token where
  | lineEnd
  /-- Blanks; a single space may stand between a date and a time. -/
  | blank (singleSpace : Bool)
  | comment
  | equals
  | period
  | comma
  | colon
  | plus
  | leftBrace
  | rightBrace
  | leftBracket
  | rightBracket
  /-- Letters, digits, hyphens and underscores: a bare key, a number or a keyword. -/
  | word (text : List Char)
  | string (text : List Char) (multiline : Bool)
  deriving DecidableEq, Inhabited

namespace Token

/-! ### Strings -/

def isTextChar (c : Char) : Bool := c == '\t' || (32 ≤ c.toNat && c.toNat != 127)

def isBlankChar (c : Char) : Bool := c == ' ' || c == '\t'

def hexDigit? (c : Char) : Option Nat :=
  if '0' ≤ c ∧ c ≤ '9' then some (c.toNat - 48)
  else if 'a' ≤ c ∧ c ≤ 'f' then some (c.toNat - 87)
  else if 'A' ≤ c ∧ c ≤ 'F' then some (c.toNat - 55)
  else none

/-- The character whose code point a fixed number of hexadecimal digits give. -/
def hexChar? (count : Nat) (cs : List Char) : Option Char := do
  let digits := cs.take count
  if digits.length < count then none
  let point ← digits.foldlM (fun value c => (hexDigit? c).map (16 * value + ·)) 0
  if point.isValidChar then some (Char.ofNat point) else none

/-- The number of characters that a backslash at the end of a line removes: blanks up to the line
end, and all blanks and line ends behind it. -/
def lineContinuation? (cs : List Char) : Option Nat :=
  match cs.dropWhile isBlankChar with
  | '\n' :: rest => some (cs.length - (rest.dropWhile fun c => isBlankChar c || c == '\n').length)
  | _ => none

/-- What an escape stands for, and the number of its characters after the backslash. -/
def escape? (multiline : Bool) : List Char → Option (List Char × Nat)
  | '\x22' :: _ => some (['\x22'], 1)
  | '\\' :: _ => some (['\\'], 1)
  | 'b' :: _ => some (['\x08'], 1)
  | 'f' :: _ => some (['\x0c'], 1)
  | 'n' :: _ => some (['\n'], 1)
  | 'r' :: _ => some (['\r'], 1)
  | 't' :: _ => some (['\t'], 1)
  | 'u' :: rest => (hexChar? 4 rest).map fun c => ([c], 5)
  | 'U' :: rest => (hexChar? 8 rest).map fun c => ([c], 9)
  | cs => if multiline then (lineContinuation? cs).map fun n => ([], n) else none

/-- The rest of a string after `skip` characters, with the text behind it. Only double quotes know
escapes. The closing quotes of a string of several lines may be preceded by two more, which belong
to the string. -/
def stringBody (quote : Char) (multiline : Bool) (skip : Nat) :
    List Char → Option (List Char × List Char)
  | [] => none
  | c :: rest =>
    match skip with
    | skip + 1 => stringBody quote multiline skip rest
    | 0 =>
      if c == quote then
        let run := (rest.takeWhile (· == quote)).length + 1
        if !multiline then some ([], rest)
        else if 3 ≤ run then
          some (List.replicate (min run 5 - 3) quote, rest.drop (min run 5 - 1))
        else (stringBody quote multiline 0 rest).map fun (text, rest) => (c :: text, rest)
      else if c == '\\' && quote == '\x22' then do
        let (meant, length) ← escape? multiline rest
        let (text, rest) ← stringBody quote multiline length rest
        some (meant ++ text, rest)
      else if isTextChar c || (c == '\n' && multiline) then
        (stringBody quote multiline 0 rest).map fun (text, rest) => (c :: text, rest)
      else none

/-- A string after its first quote. A line end right after three quotes is dropped. -/
def string? (quote : Char) (cs : List Char) : Option (Token × List Char) :=
  match cs with
  | a :: b :: rest =>
    if a == quote && b == quote then
      let rest := match rest with
        | '\n' :: rest => rest
        | rest => rest
      (stringBody quote true 0 rest).map fun (text, rest) => (.string text true, rest)
    else (stringBody quote false 0 cs).map fun (text, rest) => (.string text false, rest)
  | _ => (stringBody quote false 0 cs).map fun (text, rest) => (.string text false, rest)

/-! ### Tokens -/

def isWordChar (c : Char) : Bool := c.isAlphanum || c == '-' || c == '_'

def isCommentChar (c : Char) : Bool := c == '\t' || 32 ≤ c.toNat

/-- The first token of a text that begins with the given character. -/
def next? (c : Char) (rest : List Char) : Option (Token × List Char) :=
  match c with
  | '\n' => some (.lineEnd, rest)
  | '#' => some (.comment, rest.dropWhile isCommentChar)
  | '=' => some (.equals, rest)
  | '.' => some (.period, rest)
  | ',' => some (.comma, rest)
  | ':' => some (.colon, rest)
  | '+' => some (.plus, rest)
  | '\x7b' => some (.leftBrace, rest)
  | '\x7d' => some (.rightBrace, rest)
  | '[' => some (.leftBracket, rest)
  | ']' => some (.rightBracket, rest)
  | '\'' => string? '\'' rest
  | '\x22' => string? '\x22' rest
  | c =>
    if isBlankChar c then
      let after := rest.dropWhile isBlankChar
      some (.blank (c == ' ' && after.length == rest.length), after)
    else if isWordChar c then
      some (.word (c :: rest.takeWhile isWordChar), rest.dropWhile isWordChar)
    else none

/-- The tokens of a text, of which there are at most as many as characters. -/
def readAll : Nat → List Char → Option (List Token)
  | _, [] => some []
  | 0, _ => none
  | fuel + 1, c :: rest => do
    let (token, rest) ← next? c rest
    some (token :: (← readAll fuel rest))

/-- Joins the two characters of a line end. -/
def joinLineEnds : List Char → List Char
  | '\r' :: '\n' :: rest => '\n' :: joinLineEnds rest
  | c :: rest => c :: joinLineEnds rest
  | [] => []

/-- The tokens of a text; a byte order mark may come first. -/
def ofText? (text : String) : Option (List Token) :=
  let cs := match text.toList with
    | '\ufeff' :: cs => cs
    | cs => cs
  let cs := joinLineEnds cs
  readAll cs.length cs

end Token

end BytecodeMutation.Toml
