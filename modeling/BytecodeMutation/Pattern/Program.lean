import BytecodeMutation.Pattern.Syntax

/-! Patterns as programs: a graph whose nodes consume a character, test a position, choose between
two ways or note a position. A choice prefers its first way. -/

namespace BytecodeMutation.Pattern

inductive Node where
  | set (s : CharSet) (next : Nat)
  | look (l : Look) (next : Nat)
  | split (first second : Nat)
  /-- Notes the position in a slot. -/
  | save (slot next : Nat)
  | accept
  deriving Inhabited

structure Program where
  nodes : Array Node
  start : Nat
  /-- A capture has two slots, for its two ends; capture 0 is the whole match. -/
  slots : Nat

namespace Program

/-- Adds a node and answers its number. -/
def add (node : Node) : StateM (Array Node) Nat := fun nodes => (nodes.size, nodes.push node)

def choose (greedy : Bool) (goOn stop : Nat) : Node :=
  if greedy then .split goOn stop else .split stop goOn

/-- `n` copies of a piece, each of which goes on with the one behind it. -/
def copies (piece : Nat → StateM (Array Node) Nat) : Nat → Nat → StateM (Array Node) Nat
  | 0, next => pure next
  | n + 1, next => do copies piece n (← piece next)

/-- Up to `n` copies of a piece; after each of them the rest may be left out. -/
def optionalCopies (greedy : Bool) (piece : Nat → StateM (Array Node) Nat) (last : Nat) :
    Nat → Nat → StateM (Array Node) Nat
  | 0, next => pure next
  | n + 1, next => do
    let entry ← piece next
    optionalCopies greedy piece last n (← add (choose greedy entry last))

/-- At least one copy of a piece: the entry of the piece and the choice behind it. -/
def repeated (greedy : Bool) (piece : Nat → StateM (Array Node) Nat) (next : Nat) :
    StateM (Array Node) (Nat × Nat) := do
  let choice ← add .accept
  let entry ← piece choice
  modify fun nodes => nodes.set! choice (choose greedy entry next)
  return (entry, choice)

/-- Adds the nodes of a pattern that goes on with the node `next`, and answers the first of them. -/
def compile : Regex → Nat → StateM (Array Node) Nat
  | .empty, next => pure next
  | .set s, next => add (.set s next)
  | .look l, next => add (.look l next)
  | .seq first second, next => do compile first (← compile second next)
  | .alt first second, next => do
    let second ← compile second next
    let first ← compile first next
    add (.split first second)
  | .loop least most greedy body, next =>
    match Regex.loopBounds least most body with
    | (least, some most) => do
      let optional ← optionalCopies greedy (compile body) next (most - least) next
      copies (compile body) least optional
    | (0, none) => do
      let (entry, choice) ← repeated greedy (compile body) next
      if body.nullable then add (choose greedy entry next) else return choice
    | (least + 1, none) => do
      let (entry, _) ← repeated greedy (compile body) next
      copies (compile body) least entry
  | .capture index body, next => do
    let inner ← compile body (← add (.save (2 * index + 1) next))
    add (.save (2 * index) inner)

/-- The program of a pattern with the given number of captures. -/
def ofRegex (regex : Regex) (captures : Nat) : Program :=
  let build : StateM (Array Node) Nat := do
    let accepting ← add .accept
    compile (.capture 0 regex) accepting
  let (start, nodes) := build.run #[]
  ⟨nodes, start, 2 * (captures + 1)⟩

end Program

end BytecodeMutation.Pattern
