import BytecodeMutation.Decimal.Digits

/-! Replacement texts, in which a dollar sign refers to a capture by its number or name. -/

namespace BytecodeMutation.Pattern

inductive TemplatePart where
  | literal (c : Char)
  | capture (reference : String)
  deriving DecidableEq, Inhabited

namespace TemplatePart

def isReferenceChar (c : Char) : Bool := c.isAlphanum || c == '_'

/-- The reference after a dollar sign and the number of its characters: the longest name, or any
text between braces. -/
def reference? : List Char → Option (String × Nat)
  | '\x7b' :: rest =>
    let name := rest.takeWhile (· != '\x7d')
    if name.length < rest.length then some (String.ofList name, name.length + 2) else none
  | text =>
    let name := text.takeWhile isReferenceChar
    if name.isEmpty then none else some (String.ofList name, name.length)

/-- The parts of a template after `skip` characters. Two dollar signs stand for one, and so does one
that no reference follows. -/
def ofText (skip : Nat) : List Char → List TemplatePart
  | [] => []
  | c :: rest =>
    match skip with
    | skip + 1 => ofText skip rest
    | 0 =>
      if c != '$' then literal c :: ofText 0 rest
      else if rest.head? == some '$' then literal '$' :: ofText 1 rest
      else
        match reference? rest with
        | some (name, length) => capture name :: ofText length rest
        | none => literal '$' :: ofText 0 rest

end TemplatePart

/-- Fills a template in with the texts of the captures. A reference to no capture is empty. -/
def expandTemplate (capture : Nat → List Char) (names : List (String × Nat)) (template : String) :
    List Char :=
  (TemplatePart.ofText 0 template.toList).flatMap fun
    | .literal c => [c]
    | .capture reference =>
      match Decimal.word? reference <|> names.lookup reference with
      | some index => capture index
      | none => []

end BytecodeMutation.Pattern
