import BytecodeMutation.Pattern.Source

/-! What a backslash in a pattern introduces: a character, a set of characters or a condition on the
position. -/

namespace BytecodeMutation.Pattern

inductive Primitive where
  | literal (c : Char)
  | set (s : CharSet)
  | look (l : Look)
  deriving Inhabited

namespace Reader

/-! ### Characters by number -/

def hexDigit? (c : Char) : Option Nat :=
  if '0' ≤ c ∧ c ≤ '9' then some (c.toNat - 48)
  else if 'a' ≤ c ∧ c ≤ 'f' then some (c.toNat - 87)
  else if 'A' ≤ c ∧ c ≤ 'F' then some (c.toNat - 55)
  else none

/-- A fixed number of hexadecimal digits after those already read. -/
def hexDigits : Nat → Nat → Reader Nat
  | 0, value => return value
  | n + 1, value => do
    let digit ← ofOption (hexDigit? (← current))
    advanceBlanks
    hexDigits n (16 * value + digit)

/-- The characters before a closing brace, which is consumed too. -/
def braced : Nat → Reader (List Char)
  | 0 => failure
  | fuel + 1 => do
    let c ← current
    advanceBlanks
    if c == '}' then return [] else return c :: (← braced fuel)

def bracedText : Reader (List Char) := do
  advanceBlanks
  braced ((← get).rest.length)

def hexValue? (digits : List Char) : Option Nat :=
  if digits.isEmpty then none
  else digits.foldlM (fun value c => (hexDigit? c).map (16 * value + ·)) 0

def charOfPoint? (n : Nat) : Option Char := if n.isValidChar then some (Char.ofNat n) else none

/-- A character by its code point: between braces, or in `digits` digits. Without Unicode two digits
name a byte, and a byte above 127 is no character. -/
def hexEscape (digits : Nat) : Reader Char := do
  advanceBlanks
  if (← current) == '{' then
    ofOption (hexValue? (← bracedText) >>= charOfPoint?)
  else
    let value ← hexDigits digits 0
    if digits == 2 && value > 127 && !(← modes).unicode then failure
    ofOption (charOfPoint? value)

/-! ### Sets -/

def letterClass (letter : Char) : Reader CharSet := do
  advance
  let m ← modes
  let s ← ofOption (letterClass? m.unicode letter.toLower)
  checkExtent m (s.complementIf letter.isUpper)

/-- A property, after the letter `p` or, negated, `P`. -/
def propertyClass (negated : Bool) : Reader CharSet := do
  advanceBlanks
  let c ← current
  let s? ← if c == '{' then property? <$> bracedText else do
    advanceBlanks
    pure (if c == '\\' then none else namedProperty? [c])
  if !(← modes).unicode then failure
  foldedSet negated (← ofOption s?)

/-! ### Conditions -/

def isBoundaryNameChar (c : Char) : Bool := c.isAlpha || c == '-'

/-- The name of a kind of word boundary up to the character that ends it. -/
def boundaryName : Nat → Reader (List Char)
  | 0 => failure
  | fuel + 1 => do
    let c ← current
    if isBoundaryNameChar c then
      advanceBlanks
      return c :: (← boundaryName fuel)
    else
      return []

def boundary? (unicode : Bool) : String → Option Look
  | "start" => some (.wordStart unicode)
  | "end" => some (.wordEnd unicode)
  | "start-half" => some (.wordStartHalf unicode)
  | "end-half" => some (.wordEndHalf unicode)
  | _ => none

/-- A word boundary, whose kind may follow between braces. Braces around anything but a name are a
repetition. -/
def wordBoundary : Reader Look := do
  let unicode := (← modes).unicode
  if (← peek) != some '{' then return .wordBoundary unicode
  let before ← get
  advanceBlanks
  if !isBoundaryNameChar (← current) then
    set before
    return .wordBoundary unicode
  let name ← boundaryName ((← get).rest.length)
  if (← current) != '}' then failure
  advance
  ofOption (boundary? unicode (String.ofList name))

/-! ### The escape -/

/-- Punctuation and control characters may be escaped without need. -/
def isEscapable (c : Char) : Bool := c.toNat < 128 && !c.isAlphanum && c != '<' && c != '>'

/-- What the character after a backslash stands for by itself. -/
def simpleEscape (c : Char) : Reader Primitive := do
  advance
  let unicode := (← modes).unicode
  if isEscapable c then return .literal c
  match c with
  | 'a' => return .literal '\x07'
  | 'f' => return .literal '\x0c'
  | 't' => return .literal '\t'
  | 'n' => return .literal '\n'
  | 'r' => return .literal '\r'
  | 'v' => return .literal '\x0b'
  | 'A' => return .look .textStart
  | 'z' => return .look .textEnd
  | 'b' => return .look (← wordBoundary)
  | 'B' => return .look (.noWordBoundary unicode)
  | '<' => return .look (.wordStart unicode)
  | '>' => return .look (.wordEnd unicode)
  | _ => failure

/-- An escape from its backslash on. -/
def escape : Reader Primitive := do
  advance
  let c ← current
  match c with
  | 'x' => return .literal (← hexEscape 2)
  | 'u' => return .literal (← hexEscape 4)
  | 'U' => return .literal (← hexEscape 8)
  | 'p' => return .set (← propertyClass false)
  | 'P' => return .set (← propertyClass true)
  | 'd' | 's' | 'w' | 'D' | 'S' | 'W' => return .set (← letterClass c)
  | _ => simpleEscape c

end Reader

end BytecodeMutation.Pattern
