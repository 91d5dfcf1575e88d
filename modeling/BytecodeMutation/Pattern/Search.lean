import BytecodeMutation.Pattern.Program
import BytecodeMutation.Pattern.Property

/-! Searching a text for a pattern. All ways through the program advance together, one character at
a time and in order of preference; of several matches the leftmost is found, and of those that start
there the preferred one. -/

namespace BytecodeMutation.Pattern

/-! ### Positions -/

/-- A position in a text by the characters on its two sides. -/
structure Position where
  index : Nat
  before : Option Char
  after : Option Char

def Position.wordBefore (p : Position) (unicode : Bool) : Bool := p.before.any (isWordChar unicode)

def Position.wordAfter (p : Position) (unicode : Bool) : Bool := p.after.any (isWordChar unicode)

def Look.holds (p : Position) : Look → Bool
  | textStart => p.before.isNone
  | textEnd => p.after.isNone
  | lineStart false => p.before.all (· == '\n')
  | lineStart true =>
    p.before.all (· == '\n') || (p.before == some '\r' && p.after != some '\n')
  | lineEnd false => p.after.all (· == '\n')
  | lineEnd true =>
    p.after.all (· == '\r') || (p.after == some '\n' && p.before != some '\r')
  | wordBoundary unicode => p.wordBefore unicode != p.wordAfter unicode
  | noWordBoundary unicode => p.wordBefore unicode == p.wordAfter unicode
  | wordStart unicode => !p.wordBefore unicode && p.wordAfter unicode
  | wordEnd unicode => p.wordBefore unicode && !p.wordAfter unicode
  | wordStartHalf unicode => !p.wordBefore unicode
  | wordEndHalf unicode => !p.wordAfter unicode

/-! ### Threads -/

/-- The positions noted so far, by slot. -/
abbrev Slots := Array (Option Nat)

/-- A way through the program: the node it waits at, which consumes a character or accepts. -/
structure Thread where
  node : Nat
  slots : Slots

/-- The threads at one position in order of preference, and the nodes visited there. -/
structure Threads where
  waiting : Array Thread
  visited : Array Bool

/-- Follows the nodes that consume nothing from the ways on a stack, the preferred way on top. A
node that a preferred way has visited is not visited again. -/
def follow (program : Program) (p : Position) : Nat → List Thread → Threads → Threads
  | 0, _, threads => threads
  | _, [], threads => threads
  | fuel + 1, way :: stack, threads =>
    if threads.visited.getD way.node true then follow program p fuel stack threads
    else
      let threads := { threads with visited := threads.visited.set! way.node true }
      match program.nodes.getD way.node .accept with
      | .set _ _ => follow program p fuel stack { threads with waiting := threads.waiting.push way }
      | .accept => follow program p fuel stack { threads with waiting := threads.waiting.push way }
      | .look l next =>
        if l.holds p then follow program p fuel (⟨next, way.slots⟩ :: stack) threads
        else follow program p fuel stack threads
      | .split first second =>
        follow program p fuel (⟨first, way.slots⟩ :: ⟨second, way.slots⟩ :: stack) threads
      | .save slot next =>
        follow program p fuel (⟨next, way.slots.set! slot (some p.index)⟩ :: stack) threads

/-- The threads at a position that come from the given ways in order of preference. Every node is
visited once and adds two ways at most. -/
def threadsAt (program : Program) (p : Position) (ways : List Thread) : List Thread :=
  let size := program.nodes.size
  let none := Threads.mk #[] (.replicate size false)
  (follow program p (ways.length + 2 * size) ways none).waiting.toList

/-- What the threads come to at their position: the ways behind the next character, and the slots of
a match that ends here. A match drops the threads behind it. -/
def advanceAll (program : Program) (after : Option Char) :
    List Thread → List Thread × Option Slots
  | [] => ([], none)
  | thread :: rest =>
    match program.nodes.getD thread.node .accept with
    | .accept => ([], some thread.slots)
    | .set s next =>
      let (ways, found) := advanceAll program after rest
      if after.any s.contains then (⟨next, thread.slots⟩ :: ways, found) else (ways, found)
    | _ => advanceAll program after rest

/-! ### The search -/

/-- Searches from a position on, with the ways that reach it and the match found before. Until there
is a match a new way starts at every position, behind all others. -/
def searchFrom (program : Program) (before : Option Char) (index : Nat) (found : Option Slots)
    (ways : List Thread) : List Char → Option Slots
  | [] =>
    let start := if found.isNone then [⟨program.start, .replicate program.slots none⟩] else []
    let threads := threadsAt program ⟨index, before, none⟩ (ways ++ start)
    (advanceAll program none threads).2 <|> found
  | c :: rest =>
    let start := if found.isNone then [⟨program.start, .replicate program.slots none⟩] else []
    let threads := threadsAt program ⟨index, before, some c⟩ (ways ++ start)
    let (ways, match?) := advanceAll program (some c) threads
    searchFrom program (some c) (index + 1) (match? <|> found) ways rest

/-- The slots of the match that is found in a text. -/
def search (program : Program) (text : List Char) : Option Slots :=
  searchFrom program none 0 none [] text

end BytecodeMutation.Pattern
