import BytecodeMutation.Pattern.CharSet

/-! The structure of a pattern, and how large its program becomes. -/

namespace BytecodeMutation.Pattern

/-- The modes that a pattern switches on and off. -/
structure Modes where
  ignoreCase : Bool := false
  /-- `^` and `$` match at line ends too. -/
  multiLine : Bool := false
  /-- `.` matches line ends too. -/
  dotAll : Bool := false
  /-- `*` is lazy and `*?` is greedy. -/
  swapGreed : Bool := false
  unicode : Bool := true
  /-- Lines end at a carriage return too. -/
  carriage : Bool := false
  /-- Blanks and comments in the pattern are skipped. -/
  extended : Bool := false
  deriving DecidableEq, Inhabited

/-- Conditions on a position between two characters. The flag of a word condition tells whether
words are made of all letters or of ASCII letters. -/
inductive Look where
  | textStart
  | textEnd
  | lineStart (carriage : Bool)
  | lineEnd (carriage : Bool)
  | wordBoundary (unicode : Bool)
  | noWordBoundary (unicode : Bool)
  | wordStart (unicode : Bool)
  | wordEnd (unicode : Bool)
  | wordStartHalf (unicode : Bool)
  | wordEndHalf (unicode : Bool)
  deriving DecidableEq, Inhabited

inductive Regex where
  | empty
  | set (s : CharSet)
  | look (l : Look)
  | seq (first second : Regex)
  /-- The first branch is preferred. -/
  | alt (first second : Regex)
  /-- Without `most` there is no upper bound. A greedy repetition prefers to go on. -/
  | loop (least : Nat) (most : Option Nat) (greedy : Bool) (body : Regex)
  | capture (index : Nat) (body : Regex)
  deriving Inhabited

namespace Regex

def ofChar (c : Char) : Regex := set (.ofChar c)

/-- Whether the empty text can match, whatever surrounds it. -/
def nullable : Regex → Bool
  | empty => true
  | set _ => false
  | look _ => true
  | seq first second => first.nullable && second.nullable
  | alt first second => first.nullable || second.nullable
  | loop least _ _ body => least == 0 || body.nullable
  | capture _ body => body.nullable

/-- Whether only the empty text can match. -/
def onlyEmpty : Regex → Bool
  | empty => true
  | set _ => false
  | look _ => true
  | seq first second => first.onlyEmpty && second.onlyEmpty
  | alt first second => first.onlyEmpty && second.onlyEmpty
  | loop _ most _ body => most == some 0 || body.onlyEmpty
  | capture _ body => body.onlyEmpty

/-- The bounds of a repetition. What matches the empty text only is repeated once at most. -/
def loopBounds (least : Nat) (most : Option Nat) (body : Regex) : Nat × Option Nat :=
  if body.onlyEmpty then (min least 1, some (min (most.getD 1) 1)) else (least, most)

/-- The estimated size of the program in bytes. -/
def size : Regex → Nat
  | empty => 32
  | set s => if s.isAscii then 32 + 8 * s.runs.length else 64 + 26 * s.runs.length
  | look _ => 32
  | seq first second => first.size + second.size
  | alt first second => 64 + first.size + second.size
  | loop least most _ body =>
    match loopBounds least most body with
    | (least, none) => 64 + max least 1 * body.size
    | (least, some most) => 32 + least * body.size + (most - least) * (64 + body.size)
  | capture _ body => 64 + body.size

/-- A larger program is refused. -/
def maxSize : Nat := 10 * 1024 * 1024

end Regex

end BytecodeMutation.Pattern
