import BytecodeMutation.Pattern.Bracket

/-! Patterns from their text: alternatives of sequences of repeated pieces, with groups that capture
what they match and groups that change the modes. A malformed pattern, one that is nested too deeply
and one whose program would be too large are refused. -/

namespace BytecodeMutation.Pattern

/-- A part of a pattern with the depth to which it is nested. A change of modes cannot be repeated.
-/
structure Piece where
  regex : Regex
  depth : Nat
  repeatable : Bool := true

/-- What an opening parenthesis introduces: a change of the modes up to the end of the enclosing
group, or a group with the modes inside it. -/
inductive Opening where
  | modes (m : Modes)
  | group (index? : Option Nat) (inner : Modes)

namespace Piece

def empty : Piece := ⟨.empty, 0, false⟩

/-- Joins pieces by a binary operation; several of them are one level deeper than the deepest. -/
def join (operation : Regex → Regex → Regex) : List Piece → Piece
  | [] => empty
  | [piece] => piece
  | first :: second :: rest =>
    let pieces := first :: second :: rest
    let regex := (second :: rest).foldl (fun regex piece => operation regex piece.regex) first.regex
    ⟨regex, (pieces.map Piece.depth).foldl max 0 + 1, true⟩

def sequence (pieces : List Piece) : Piece := join .seq pieces

def alternatives (branches : List Piece) : Piece := join .alt branches

end Piece

namespace Reader

/-! ### Single pieces -/

def lookPiece (l : Look) : Piece := ⟨.look l, 0, true⟩

def setPiece (s : CharSet) : Piece := ⟨.set s, 0, true⟩

def literalPiece (c : Char) : Reader Piece := do
  return setPiece (fold (← modes) (.ofChar c))

/-- The sign for any character; without Unicode it could match a part of one. -/
def anyPiece : Reader Piece := do
  let m ← modes
  if !m.unicode then failure
  let excluded := if m.dotAll then [] else if m.carriage then ['\n', '\r'] else ['\n']
  return setPiece (CharSet.ofChars excluded).complement

def startLook (m : Modes) : Look := if m.multiLine then .lineStart m.carriage else .textStart

def endLook (m : Modes) : Look := if m.multiLine then .lineEnd m.carriage else .textEnd

/-- A piece that is neither a group nor a bracket. -/
def primitive : Reader Piece := do
  let c ← current
  if c == '\\' then
    match ← escape with
    | .literal c => literalPiece c
    | .set s => return setPiece s
    | .look l => return lookPiece l
  else
    advance
    match c with
    | '.' => anyPiece
    | '^' => return lookPiece (startLook (← modes))
    | '$' => return lookPiece (endLook (← modes))
    | c => literalPiece c

/-! ### Repetition -/

/-- A repetition is lazy if a question mark follows it. -/
def greediness : Reader Bool := do
  let lazy ← accept "?"
  return lazy == (← modes).swapGreed

def repeatPiece (least : Nat) (most : Option Nat) (greedy : Bool) : List Piece → Reader Piece
  | [] => failure
  | piece :: _ =>
    if piece.repeatable then return ⟨.loop least most greedy piece.regex, piece.depth + 1, true⟩
    else failure

def digitRun : Nat → Reader (List Char)
  | 0 => return []
  | fuel + 1 => do
    match ← peek with
    | some c =>
      if c.isDigit then
        advanceBlanks
        return c :: (← digitRun fuel)
      else
        return []
    | none => return []

def dropSpaces : Reader Unit := modify fun s => { s with rest := s.rest.dropWhile isBlank }

/-- A count; it has to fit into 32 bits. Blanks around it are skipped. -/
def count : Reader Nat := do
  dropSpaces
  let digits ← digitRun ((← get).rest.length)
  dropSpaces
  if digits.isEmpty then failure
  let value := digits.foldl (fun n c => 10 * n + (c.toNat - 48)) 0
  if value < 0x100000000 then return value else failure

/-- The bounds of a repetition from the opening brace on. -/
def countedBounds : Reader (Nat × Option Nat) := do
  advanceBlanks
  let least ← count
  skipBlanks
  let most ← if (← current) == ',' then do
      advanceBlanks
      if (← current) == '}' then pure none else some <$> count
    else pure (some least)
  skipBlanks
  if (← current) != '}' then failure
  if most.all (least ≤ ·) then return (least, most) else failure

def uncountedBounds (c : Char) : Nat × Option Nat :=
  if c == '?' then (0, some 1) else if c == '*' then (0, none) else (1, none)

/-! ### Groups -/

def isNameStart (c : Char) : Bool := c == '_' || isAlphabetic c

def isNameChar (c : Char) : Bool :=
  c == '_' || c == '.' || c == '[' || c == ']' || isAlphabetic c || isNumeric c

/-- The name of a capture up to the closing angle, which is consumed too. -/
def captureName : Reader String := do
  let s ← get
  let name := s.rest.takeWhile (· != '>')
  match name with
  | [] => failure
  | first :: others =>
    if isNameStart first && others.all isNameChar then
      set { s with rest := s.rest.drop name.length }
      if !(← accept ">") then failure
      return String.ofList name
    else
      failure

/-- Opens a capture. -/
def newCapture : Reader Nat := do
  let s ← get
  set { s with captures := s.captures + 1 }
  return s.captures + 1

/-- Names of captures are unique. -/
def nameCapture (index : Nat) (name : String) : Reader Unit := do
  let s ← get
  if (s.names.lookup name).isSome then failure
  set { s with names := s.names ++ [(name, index)] }

def setMode (m : Modes) (value : Bool) : Char → Option Modes
  | 'i' => some { m with ignoreCase := value }
  | 'm' => some { m with multiLine := value }
  | 's' => some { m with dotAll := value }
  | 'U' => some { m with swapGreed := value }
  | 'u' => some { m with unicode := value }
  | 'R' => some { m with carriage := value }
  | 'x' => some { m with extended := value }
  | _ => none

/-- Mode letters up to the sign that ends them, with the letters and hyphens seen. A hyphen switches
off the modes that follow it; there is at least one of them. -/
def modeLetters : Nat → List Char → Modes → Reader (List Char × Modes)
  | 0, _, _ => failure
  | fuel + 1, seen, m => do
    let c ← current
    if c == ':' || c == ')' then
      if seen.head? == some '-' then failure
      return (seen, m)
    else if seen.contains c then
      failure
    else
      let m ← if c == '-' then pure m else ofOption (setMode m (!seen.contains '-') c)
      advance
      modeLetters fuel (c :: seen) m

/-- What follows an opening parenthesis. There is no looking ahead or behind. -/
def opening : Reader Opening := do
  advance
  skipBlanks
  let s ← get
  if ["?=", "?!", "?<=", "?<!"].any fun sign => sign.toList.isPrefixOf s.rest then failure
  if ← accept "?P<" <||> accept "?<" then
    let index ← newCapture
    nameCapture index (← captureName)
    return .group (some index) s.modes
  else if ← accept "?" then
    let (seen, m) ← modeLetters (s.rest.length + 1) [] s.modes
    let closing ← current
    advance
    if closing == ')' then
      if seen.isEmpty then failure else return .modes m
    else
      return .group none m
  else
    return .group (some (← newCapture)) s.modes

def setModes (m : Modes) : Reader Unit := modify fun s => { s with modes := m }

def groupPiece (index? : Option Nat) (body : Piece) : Piece :=
  ⟨match index? with
    | some index => .capture index body.regex
    | none => body.regex, body.depth + 1, true⟩

/-! ### Alternatives -/

/-- Reads alternatives up to a closing parenthesis or the end. The finished branches and the pieces
of the current one are in reverse order. -/
def alternatives : Nat → List Piece → List Piece → Reader Piece
  | 0, _, _ => failure
  | fuel + 1, branches, pieces => do
    skipBlanks
    let finished := Piece.sequence pieces.reverse :: branches
    match ← peek with
    | none => return .alternatives finished.reverse
    | some ')' => return .alternatives finished.reverse
    | some '|' =>
      advance
      alternatives fuel finished []
    | some '(' =>
      let outer ← modes
      match ← opening with
      | .modes m =>
        setModes m
        alternatives fuel branches (.empty :: pieces)
      | .group index? inner =>
        setModes inner
        let body ← alternatives fuel [] []
        setModes outer
        if !(← accept ")") then failure
        alternatives fuel branches (groupPiece index? body :: pieces)
    | some '[' =>
      let s ← bracket
      alternatives fuel branches (⟨.set s.set, s.depth, true⟩ :: pieces)
    | some '{' =>
      let (least, most) ← countedBounds
      advanceBlanks
      let piece ← repeatPiece least most (← greediness) pieces
      alternatives fuel branches (piece :: pieces.tail)
    | some c =>
      if c == '?' || c == '*' || c == '+' then
        advance
        let (least, most) := uncountedBounds c
        let piece ← repeatPiece least most (← greediness) pieces
        alternatives fuel branches (piece :: pieces.tail)
      else
        alternatives fuel branches ((← primitive) :: pieces)

end Reader

/-- A deeper nested pattern is refused. -/
def maxDepth : Nat := 250

/-- A pattern's structure with the number and the names of its captures. -/
structure Parsed where
  regex : Regex
  captures : Nat
  names : List (String × Nat)

def parse? (text : String) : Option Parsed := do
  let source : Source := { rest := text.toList }
  let (piece, source) ← Reader.alternatives (source.rest.length + 1) [] [] source
  if source.rest.isEmpty && piece.depth ≤ maxDepth && piece.regex.size ≤ Regex.maxSize then
    some ⟨piece.regex, source.captures, source.names⟩
  else none

end BytecodeMutation.Pattern
