import BytecodeMutation.Pattern.Property
import BytecodeMutation.Pattern.Syntax

/-! Reading the text of a pattern: what is left of it, the modes in force and the captures opened so
far. A reader fails on a malformed pattern. -/

namespace BytecodeMutation.Pattern

structure Source where
  rest : List Char
  modes : Modes := {}
  /-- The number of captures opened so far. -/
  captures : Nat := 0
  /-- The names of captures with their indices. -/
  names : List (String × Nat) := []

abbrev Reader := StateT Source Option

namespace Reader

def ofOption {α : Type} (value? : Option α) : Reader α := fun s => value?.map fun v => (v, s)

def modes : Reader Modes := do return (← get).modes

def peek : Reader (Option Char) := do return (← get).rest.head?

/-- The next character; there has to be one. -/
def current : Reader Char := do ofOption (← peek)

def advance : Reader Unit := modify fun s => { s with rest := s.rest.tail }

/-- Consumes the given characters if they come next. -/
def accept (text : String) : Reader Bool := do
  let s ← get
  if text.toList.isPrefixOf s.rest then
    set { s with rest := s.rest.drop text.length }
    return true
  else
    return false

/-! ### Blanks -/

/-- Drops blanks and comments; a comment goes from `#` to the end of the line. -/
def dropBlanks (inComment : Bool) : List Char → List Char
  | [] => []
  | c :: rest =>
    if inComment then dropBlanks (c != '\n') rest
    else if isBlank c then dropBlanks false rest
    else if c == '#' then dropBlanks true rest
    else c :: rest

/-- In extended mode, skips blanks and comments. -/
def skipBlanks : Reader Unit :=
  modify fun s => if s.modes.extended then { s with rest := dropBlanks false s.rest } else s

def advanceBlanks : Reader Unit := do advance; skipBlanks

/-! ### Sets -/

/-- The set with the other cases of its letters, where letter case is ignored. -/
def fold (m : Modes) (s : CharSet) : CharSet :=
  if m.ignoreCase then (if m.unicode then s.foldClosure else s.asciiFoldClosure) else s

/-- Without Unicode a set may hold ASCII characters only. -/
def checkExtent (m : Modes) (s : CharSet) : Reader CharSet :=
  if m.unicode || s.isAscii then pure s else failure

/-- The set that a class written in the pattern stands for. Letter case is ignored before the class
is negated. -/
def foldedSet (negated : Bool) (s : CharSet) : Reader CharSet := do
  let m ← modes
  checkExtent m ((fold m s).complementIf negated)

end Reader

end BytecodeMutation.Pattern
