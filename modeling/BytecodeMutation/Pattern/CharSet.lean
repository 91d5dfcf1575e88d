import BytecodeMutation.Pattern.FoldTable

/-! Sets of characters, as lists of runs of code points. Every operation but the plain constructor
leaves the runs in ascending order, apart from each other and without gaps that no character fills.
-/

namespace BytecodeMutation.Pattern

/-- First and last code point of a run. -/
abbrev Run := Nat × Nat

structure CharSet where
  runs : List Run
  deriving DecidableEq, Inhabited

namespace CharSet

def empty : CharSet := ⟨[]⟩

/-- The last code point. -/
def lastPoint : Nat := 0x10ffff

def hasPoint (s : CharSet) (n : Nat) : Bool := s.runs.any fun r => r.1 ≤ n && n ≤ r.2

def contains (s : CharSet) (c : Char) : Bool := s.hasPoint c.toNat

/-! ### Normal form -/

/-- Joins the runs of an ascending list that overlap or touch. -/
def joinRuns : Run → List Run → List Run
  | current, [] => [current]
  | current, next :: rest =>
    if next.1 ≤ current.2 + 1 then joinRuns (current.1, max current.2 next.2) rest
    else current :: joinRuns next rest

def ofRuns (runs : List Run) : CharSet :=
  match runs.mergeSort fun a b => a.1 ≤ b.1 with
  | [] => ⟨[]⟩
  | first :: rest => ⟨joinRuns first rest⟩

def ofChar (c : Char) : CharSet := ⟨[(c.toNat, c.toNat)]⟩

def ofChars (cs : List Char) : CharSet := ofRuns (cs.map fun c => (c.toNat, c.toNat))

/-! ### Boolean operations -/

/-- The gaps between ascending runs from the point `start` on. -/
def gaps (start : Nat) : List Run → List Run
  | [] => if start ≤ lastPoint then [(start, lastPoint)] else []
  | run :: rest =>
    if start < run.1 then (start, run.1 - 1) :: gaps (run.2 + 1) rest else gaps (run.2 + 1) rest

def complement (s : CharSet) : CharSet := ⟨gaps 0 s.runs⟩

def union (s t : CharSet) : CharSet := ofRuns (s.runs ++ t.runs)

def inter (s t : CharSet) : CharSet := (s.complement.union t.complement).complement

def difference (s t : CharSet) : CharSet := s.inter t.complement

def symmetricDifference (s t : CharSet) : CharSet := (s.difference t).union (t.difference s)

def complementIf (negated : Bool) (s : CharSet) : CharSet := if negated then s.complement else s

/-! ### Letter case -/

/-- Every character that differs from its folded form, with that form. -/
def foldPairs : List (Nat × Nat) :=
  foldRuns.flatMap fun run =>
    (List.range ((run.last - run.first) / run.step + 1)).map fun k =>
      let point := run.first + k * run.step
      (point, (Int.ofNat point + run.distance).toNat)

/-- Adds the other cases of the letters in the set. -/
def foldClosure (s : CharSet) : CharSet :=
  let folded := s.union (ofRuns ((foldPairs.filter fun p => s.hasPoint p.1).map fun p => (p.2, p.2)))
  folded.union (ofRuns ((foldPairs.filter fun p => folded.hasPoint p.2).map fun p => (p.1, p.1)))

/-! ### Extent -/

/-- Whether every member is below the given point. -/
def allBelow (s : CharSet) (bound : Nat) : Bool := s.runs.all fun r => r.2 < bound

def isAscii (s : CharSet) : Bool := s.allBelow 128

/-- Adds the other cases of the ASCII letters in the set. -/
def asciiFoldClosure (s : CharSet) : CharSet :=
  let upper := (s.inter ⟨[(0x61, 0x7a)]⟩).runs.map fun r => (r.1 - 32, r.2 - 32)
  let lower := (s.inter ⟨[(0x41, 0x5a)]⟩).runs.map fun r => (r.1 + 32, r.2 + 32)
  s.union (ofRuns (upper ++ lower))

end CharSet

end BytecodeMutation.Pattern
