import BytecodeMutation.Pattern.Escape

/-! Bracket expressions: sets of characters put together from characters, ranges, classes and nested
brackets by union, intersection and differences. -/

namespace BytecodeMutation.Pattern

inductive SetOperation where
  | intersection
  | difference
  | symmetricDifference
  deriving DecidableEq, Inhabited

def SetOperation.apply : SetOperation → CharSet → CharSet → CharSet
  | intersection => CharSet.inter
  | difference => CharSet.difference
  | symmetricDifference => CharSet.symmetricDifference

/-- A set with the depth to which its expression is nested. -/
structure NestedSet where
  set : CharSet
  depth : Nat

/-- The items of one operand, as far as they are read. -/
structure Operand where
  set : CharSet := .empty
  count : Nat := 0
  depth : Nat := 0

def Operand.add (o : Operand) (s : CharSet) (depth : Nat) : Operand :=
  ⟨o.set.union s, o.count + 1, max o.depth depth⟩

/-- A union of several items is one level deeper than they are. -/
def Operand.close (o : Operand) : NestedSet := ⟨o.set, if o.count < 2 then o.depth else o.depth + 1⟩

namespace Reader

/-! ### Items -/

/-- A POSIX class such as `[:alpha:]` or `[:^alpha:]` with what follows it. -/
def posixItem? : List Char → Option (Bool × CharSet × List Char)
  | '[' :: ':' :: rest =>
    let (negated, rest) := match rest with
      | '^' :: rest => (true, rest)
      | _ => (false, rest)
    match rest.dropWhile (· != ':') with
    | ':' :: ']' :: after => do
      let s ← posixClass? (String.ofList (rest.takeWhile (· != ':')))
      some (negated, s, after)
    | _ => none
  | _ => none

/-- The operation whose doubled sign comes next. -/
def operation? : List Char → Option SetOperation
  | '&' :: '&' :: _ => some .intersection
  | '-' :: '-' :: _ => some .difference
  | '~' :: '~' :: _ => some .symmetricDifference
  | _ => none

/-- A character or an escape. -/
def member : Reader Primitive := do
  let c ← current
  if c == '\\' then escape else do
    advance
    return .literal c

def literalPoint (p : Primitive) : Reader Nat := do
  match p with
  | .literal c => if (← modes).unicode || c.toNat < 128 then return c.toNat else failure
  | _ => failure

def memberSet : Primitive → Reader CharSet
  | .set s => return s
  | p => do
    let point ← literalPoint p
    return ⟨[(point, point)]⟩

/-- The character after the next one. In extended mode blanks between them do not count, and nor
does a sign that opens a comment. -/
def peekSecond (s : Source) : Option Char :=
  let after := s.rest.tail
  if s.modes.extended then
    match after.dropWhile isBlank with
    | '#' :: comment => (comment.dropWhile isBlank).head?
    | rest => rest.head?
  else after.head?

/-- A single member, or a range between two characters. A hyphen before the closing bracket or
before another hyphen makes no range. -/
def rangeItem : Reader CharSet := do
  let first ← member
  skipBlanks
  let second := peekSecond (← get)
  if (← current) != '-' || second == some ']' || second == some '-' then memberSet first
  else
    advanceBlanks
    let last ← literalPoint (← member)
    let first ← literalPoint first
    if first ≤ last then return ⟨[(first, last)]⟩ else failure

/-! ### Brackets -/

/-- Hyphens at the start of a bracket stand for themselves. -/
def leadingHyphens : Nat → Operand → Reader Operand
  | 0, o => return o
  | fuel + 1, o => do
    if (← current) == '-' then
      advanceBlanks
      leadingHyphens fuel (o.add (.ofChar '-') 0)
    else
      return o

/-- The start of a bracket: whether it is negated, and the hyphens or the closing bracket that stand
for themselves there. -/
def bracketOpening : Reader (Bool × Operand) := do
  advanceBlanks
  let negated := (← current) == '^'
  if negated then advanceBlanks
  let o ← leadingHyphens ((← get).rest.length) {}
  if o.count == 0 && (← current) == ']' then
    advanceBlanks
    return (negated, o.add (.ofChar ']') 0)
  else
    return (negated, o)

/-- The value of an operand together with the operation that waits for it. -/
def combine (m : Modes) (pending? : Option (SetOperation × NestedSet)) (o : Operand) : NestedSet :=
  match pending? with
  | none => o.close
  | some (operation, left) =>
    ⟨operation.apply (fold m left.set) (fold m o.set), max left.depth o.close.depth + 1⟩

/-- The rest of a bracket. Operations have equal rank and apply from left to right. -/
def bracketBody : Nat → Option (SetOperation × NestedSet) → Operand → Reader NestedSet
  | 0, _, _ => failure
  | fuel + 1, pending?, o => do
    skipBlanks
    let c ← current
    let m ← modes
    if c == ']' then
      advance
      return combine m pending? o
    else if c == '[' then
      match posixItem? (← get).rest with
      | some (negated, s, rest) =>
        modify fun source => { source with rest := rest }
        bracketBody fuel pending? (o.add (← foldedSet negated s) 0)
      | none =>
        let (negated, opening) ← bracketOpening
        let inner ← bracketBody fuel none opening
        bracketBody fuel pending? (o.add (← foldedSet negated inner.set) (inner.depth + 1))
    else
      match operation? (← get).rest with
      | some operation =>
        advance
        advance
        bracketBody fuel (some (operation, combine m pending? o)) {}
      | none => bracketBody fuel pending? (o.add (← rangeItem) 0)

/-- A bracket expression from its opening bracket on. -/
def bracket : Reader NestedSet := do
  let (negated, opening) ← bracketOpening
  let inner ← bracketBody ((← get).rest.length + 1) none opening
  return ⟨← foldedSet negated inner.set, inner.depth + 1⟩

end Reader

end BytecodeMutation.Pattern
