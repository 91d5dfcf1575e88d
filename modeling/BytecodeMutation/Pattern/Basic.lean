import BytecodeMutation.Pattern.Parser
import BytecodeMutation.Pattern.Search
import BytecodeMutation.Pattern.Template

/-! Regular expressions: a text is searched for a match anywhere in it, and the first match can be
replaced. -/

namespace BytecodeMutation

structure Pattern where
  program : Pattern.Program
  names : List (String × Nat)

namespace Pattern

/-- The pattern that a text denotes, unless it is malformed. -/
def ofString? (text : String) : Option Pattern :=
  (parse? text).map fun parsed => ⟨Program.ofRegex parsed.regex parsed.captures, parsed.names⟩

def occursIn (pattern : Pattern) (text : String) : Bool :=
  (search pattern.program text.toList).isSome

/-- The two ends of a capture. -/
def captureBounds? (slots : Slots) (index : Nat) : Option (Nat × Nat) := do
  let first ← slots.getD (2 * index) none
  let last ← slots.getD (2 * index + 1) none
  some (first, last)

def captureText (slots : Slots) (text : List Char) (index : Nat) : List Char :=
  match captureBounds? slots index with
  | some (first, last) => (text.take last).drop first
  | none => []

/-- Replaces the first match by the template, filled in with the captures. -/
def replaceFirst (pattern : Pattern) (template text : String) : String :=
  let cs := text.toList
  match search pattern.program cs with
  | none => text
  | some slots =>
    match captureBounds? slots 0 with
    | none => text
    | some (first, last) =>
      String.ofList (cs.take first
        ++ expandTemplate (captureText slots cs) pattern.names template ++ cs.drop last)

end Pattern

end BytecodeMutation
