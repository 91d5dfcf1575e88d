/-! How similar two words are, as a number from 0 to 1. Characters match if they are equal and not
too far from each other; matches in another order count less, and a common beginning counts more. -/

namespace BytecodeMutation.Text

/-- The state of matching: the places of the second word that are taken, the place of the last
match, the number of matches, and how many of them went backwards. -/
structure Matching where
  taken : List Nat
  last : Nat
  matched : Nat
  backward : Nat
  deriving DecidableEq, Inhabited

namespace Matching

def start : Matching := ⟨[], 0, 0, 0⟩

/-- Matches the character at a place of the first word with the first equal one within reach. -/
def step (word : List Char) (reach : Nat) (s : Matching) (c : Char) (place : Nat) : Matching :=
  let fits (p : Char × Nat) : Bool :=
    p.1 == c && place ≤ p.2 + reach && p.2 ≤ place + reach && !s.taken.contains p.2
  match word.zipIdx.find? fits with
  | none => s
  | some (_, found) =>
    ⟨found :: s.taken, found, s.matched + 1, if found < s.last then s.backward + 1 else s.backward⟩

/-- Matches the first word with the second. -/
def of (first second : List Char) : Matching :=
  let reach := max first.length second.length / 2 - 1
  first.zipIdx.foldl (fun s (c, place) => s.step second reach c place) start

end Matching

/-- The similarity without regard to a common beginning. -/
def plainSimilarity (first second : List Char) : Float :=
  let s := Matching.of first second
  if first.isEmpty && second.isEmpty then 1
  else if s.matched = 0 then 0
  else
    let matched := Float.ofNat s.matched
    1 / 3 * (matched / Float.ofNat first.length + matched / Float.ofNat second.length
      + (matched - Float.ofNat s.backward) / matched)

def commonBeginning (first second : List Char) : Nat :=
  ((first.zip second).takeWhile fun (a, b) => a == b).length

def similarity (first second : String) : Float :=
  let plain := plainSimilarity first.toList second.toList
  let beginning := Float.ofNat (commonBeginning first.toList second.toList)
  min 1 (plain + 0.1 * beginning * (1 - plain))

end BytecodeMutation.Text
