import BytecodeMutation.Toml.Number
import BytecodeMutation.Toml.Token

/-! The lines of a TOML text: section headers and keys with their values. -/

namespace BytecodeMutation.Toml

/-- A header with the entries below it. The first section may have no header. -/
structure Section where
  header : List String
  /-- Whether the header is in double brackets and so adds an item to a list of tables. -/
  isItem : Bool
  entries : Entries
  deriving Inhabited

abbrev Reader := StateT (List Token) Option

namespace Reader

def ofOption {α : Type} (value? : Option α) : Reader α := fun tokens =>
  value?.map fun v => (v, tokens)

def next : Reader Token := fun tokens =>
  match tokens with
  | [] => none
  | token :: rest => some (token, rest)

/-- Consumes the token if it comes next. -/
def accept (token : Token) : Reader Bool := fun tokens =>
  match tokens with
  | [] => some (false, [])
  | first :: rest => if first = token then some (true, rest) else some (false, first :: rest)

def expect (token : Token) : Reader Unit := do
  if !(← accept token) then failure

def skipBlanks : Reader Unit := fun tokens =>
  match tokens with
  | .blank _ :: rest => some ((), rest)
  | tokens => some ((), tokens)

def lineEndOrEnd : Reader Unit := fun tokens =>
  match tokens with
  | [] => some ((), [])
  | .lineEnd :: rest => some ((), rest)
  | _ => none

/-- Consumes a comment with the end of its line, if one comes next. -/
def comment : Reader Bool := do
  if ← accept .comment then
    lineEndOrEnd
    return true
  else
    return false

/-- The end of a line, before which there may be a comment. -/
def endLine : Reader Unit := do
  skipBlanks
  if !(← comment) then lineEndOrEnd

/-- Skips blanks, comments and line ends. -/
def skipLines : Nat → Reader Unit
  | 0 => return ()
  | fuel + 1 => do
    skipBlanks
    if ← accept .lineEnd <||> comment then skipLines fuel

def skipAllLines : Reader Unit := do skipLines ((← get).length + 1)

def word : Reader (List Char) := do
  match ← next with
  | .word text => return text
  | _ => failure

/-! ### Keys -/

/-- A bare key or a string of a single line. -/
def key : Reader String := do
  match ← next with
  | .word text => return String.ofList text
  | .string text false => return String.ofList text
  | _ => failure

/-- The further parts of a dotted key, and the blanks behind it. -/
def keyRest : Nat → Reader (List String)
  | 0 => failure
  | fuel + 1 => do
    skipBlanks
    if ← accept .period then
      skipBlanks
      let first ← key
      return first :: (← keyRest fuel)
    else
      return []

def dottedKey : Reader (List String) := do
  let first ← key
  return first :: (← keyRest ((← get).length + 1))

/-! ### Numbers and times -/

/-- A word with these letters or with an inner hyphen that is no sign of an exponent begins a time.
-/
def beginsTime (text : List Char) : Bool :=
  let hasSequence (a b : Char) := (text.zip text.tail).contains (a, b)
  text.contains 'T' || text.contains 't'
    || (text.tail.contains '-' && !hasSequence 'e' '-' && !hasSequence 'E' '-')

/-- The rest of a date or a time after its first word, and after a colon if one is read. A date may
be followed by a space and an hour. The digits are not checked. -/
def time (colonRead : Bool) : Reader Value := do
  match ← get with
  | .blank true :: .word _ :: rest => set rest
  | _ => pure ()
  if ← pure colonRead <||> accept .colon then
    discard word
    expect .colon
    discard word
    if ← accept .period then discard word
    if ← accept .plus then discard word
    if ← accept .colon then discard word
  return .time

/-- A number with an exponent or with digits after the point. The sign of an exponent may be a token
of its own. -/
def fraction (text : List Char) (afterPoint? : Option (List Char)) : Reader Value := do
  let (whole, suffix) ← ofOption (splitRun? decimalForm text)
  let (digits, suffix) ← match afterPoint? with
    | none => pure ([], suffix)
    | some after => do
      if !suffix.isEmpty then failure
      let (run, suffix) ← ofOption (splitRun? (baseForm 10) after)
      pure (run.digits, suffix)
  match suffix with
  | [] => ofOption (fraction? whole digits 0)
  | mark :: rest =>
    if mark != 'e' && mark != 'E' then failure
    let (exponent, rest) ← if rest.isEmpty then do
        discard (accept .plus)
        ofOption (splitRun? (baseForm 10) (← word))
      else ofOption (splitRun? ⟨true, true, 10⟩ rest)
    if !rest.isEmpty then failure
    ofOption (fraction? whole digits (exponentOf exponent))

def isNonFinite (text : List Char) : Bool :=
  ["inf", "-inf", "nan", "-nan"].contains (String.ofList text)

def number (text : List Char) : Reader Value :=
  match text with
  | '0' :: 'x' :: digits => ofOption (integer? (baseForm 16) digits)
  | '0' :: 'o' :: digits => ofOption (integer? (baseForm 8) digits)
  | '0' :: 'b' :: digits => ofOption (integer? (baseForm 2) digits)
  | _ => do
    if text.contains 'e' || text.contains 'E' then fraction text none
    else if ← accept .period then fraction text (some (← word))
    else if isNonFinite text then return .fraction
    else ofOption (integer? decimalForm text)

def numberOrTime (text : List Char) : Reader Value := do
  if beginsTime text then time false
  else if ← accept .colon then time true
  else number text

/-- A value that is a single word, or begins with one. -/
def wordValue (text : List Char) : Reader Value :=
  match String.ofList text with
  | "true" => return .boolean true
  | "false" => return .boolean false
  | "inf" | "nan" => numberOrTime text
  | _ => if text.head?.any fun c => c == '-' || c.isDigit then numberOrTime text else failure

/-! ### Values -/

mutual

def value : Nat → Reader Value
  | 0 => failure
  | fuel + 1 => do
    match ← next with
    | .string text _ => return .string (String.ofList text)
    | .word text => wordValue text
    | .plus => number (← word)
    | .leftBrace => do
      skipBlanks
      if ← accept .rightBrace then return .table false []
      return .table false (← members fuel [])
    | .leftBracket => return .array (← items fuel [])
    | _ => failure

/-- The entries of a table between braces; all of it is on one line, and no comma is the last. -/
def members : Nat → Entries → Reader Entries
  | 0, _ => failure
  | fuel + 1, entries => do
    let keys ← dottedKey
    expect .equals
    skipBlanks
    let v ← value fuel
    let entries ← ofOption (entries.add? keys v)
    skipBlanks
    if ← accept .rightBrace then return entries
    expect .comma
    skipBlanks
    members fuel entries

/-- The items of a list; a comma may be the last, and there may be comments. -/
def items : Nat → List Value → Reader (List Value)
  | 0, _ => failure
  | fuel + 1, read => do
    skipAllLines
    if ← accept .rightBracket then return read
    let v ← value fuel
    skipAllLines
    if ← accept .comma then items fuel (read ++ [v])
    else
      expect .rightBracket
      return read ++ [v]

end

/-! ### Lines -/

/-- A header after its first bracket. -/
def header : Reader Section := do
  let isItem ← accept .leftBracket
  skipBlanks
  let keys ← dottedKey
  expect .rightBracket
  if isItem then expect .rightBracket
  endLine
  return ⟨keys, isItem, []⟩

def keyValue : Reader (List String × Value) := do
  let keys ← dottedKey
  expect .equals
  skipBlanks
  let v ← value ((← get).length + 1)
  endLine
  return (keys, v)

/-- Reads lines up to the end; the sections read so far are in reverse order. -/
def sections : Nat → List Section → Reader (List Section)
  | 0, _ => failure
  | fuel + 1, read => do
    skipAllLines
    match ← get with
    | [] => return read.reverse
    | .leftBracket :: rest => do
      set rest
      sections fuel ((← header) :: read)
    | _ => do
      let (keys, v) ← keyValue
      match read with
      | [] => sections fuel [⟨[], false, ← ofOption (Entries.add? [] keys v)⟩]
      | current :: others =>
        let entries ← ofOption (current.entries.add? keys v)
        sections fuel ({ current with entries := entries } :: others)

end Reader

/-- The sections of a text in their order. -/
def sections? (text : String) : Option (List Section) := do
  let tokens ← Token.ofText? text
  let (sections, _) ← Reader.sections (tokens.length + 1) [] tokens
  some sections

end BytecodeMutation.Toml
