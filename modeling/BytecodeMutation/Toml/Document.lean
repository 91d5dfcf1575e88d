import BytecodeMutation.Toml.Reader

/-! The table that the sections of a TOML text make up. The header of a section is the path to its
entries. Sections of one path may not repeat, unless they are items of a list; a key may repeat
among the entries of a table. -/

namespace BytecodeMutation.Toml

/-- The sections whose path begins with the key, with the rest of their paths. -/
def sectionsUnder (key : String) (sections : List Section) : List Section :=
  (sections.filter fun s => s.header.head? == some key).map fun s =>
    { s with header := s.header.tail }

/-- Whether a section begins an item of the list at this path. -/
def Section.beginsItem (s : Section) : Bool := s.header.isEmpty && s.isItem

/-- The items of a list by their sections; its first section begins the first item. -/
def splitItems (sections : List Section) : List (List Section) :=
  let add (s : Section) : List Section × List (List Section) → List Section × List (List Section)
    | (pending, items) =>
      if s.beginsItem then ([], ({ s with isItem := false } :: pending) :: items)
      else (s :: pending, items)
  (sections.foldr add ([], [])).2

mutual

/-- The entries that sections make up. The fuel is one more than the length of their paths. -/
def resolve? : Nat → List Section → Option Entries
  | 0, _ => none
  | fuel + 1, sections =>
    let own := sections.filter fun s => s.header.isEmpty
    if own.length > 1 || own.any Section.isItem then none
    else gather? fuel sections [] sections

/-- The entries of the sections at the end of the list, and the values below the keys not yet seen.
-/
def gather? (fuel : Nat) (all : List Section) (seen : List String) :
    List Section → Option Entries
  | [] => some []
  | s :: rest =>
    match s.header with
    | [] => do
      let others ← gather? fuel all seen rest
      some (s.entries ++ others)
    | key :: _ =>
      if seen.contains key then gather? fuel all seen rest
      else do
        let v ← sectionsValue? fuel (sectionsUnder key all)
        let others ← gather? fuel all (key :: seen) rest
        some ((key, v) :: others)

/-- The value that the sections below a key make up: a list if the first of them begins an item. -/
def sectionsValue? (fuel : Nat) (sections : List Section) : Option Value :=
  if sections.head?.any Section.beginsItem then
    ((splitItems sections).mapM fun item => (resolve? fuel item).map (.table false)).map .array
  else (resolve? fuel sections).map (.table false)

end

/-- The entries of a whole text. -/
def ofText? (text : String) : Option Entries := do
  let sections ← sections? text
  resolve? ((sections.map fun s => s.header.length).foldl max 0 + 1) sections

end BytecodeMutation.Toml
