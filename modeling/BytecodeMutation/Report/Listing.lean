import BytecodeMutation.Report.Colour
import BytecodeMutation.Report.Keyed
import BytecodeMutation.Report.Renaming
import BytecodeMutation.Report.Summary
import BytecodeMutation.Workspace.Basic

/-! The listing of mutation sites on the console, in ascending order of file and line and otherwise
in the order of the sites. With every site stands its source line. Sites without a file or a line
have a place of their own. -/

namespace BytecodeMutation

def Category.colour : Category → Colour
  | .operatorSubstitution => .blue
  | .operandElimination => .magenta
  | .constantPerturbation => .cyan
  | .unaryStep => .yellow
  | .negationInsertion => .yellow
  | .callSubstitution => .green

namespace Listing

/-- What stands for the file of a site without one. -/
def unknownFile : String := "<unknown>"

def fileOf (rename : String → String) (s : MutationSite) : String :=
  (s.reportedFile? rename).getD unknownFile

/-- The line of a site, zero if it has none. -/
def lineOf (s : MutationSite) : Nat := (s.location.line.map UInt32.toNat).getD 0

/-- The sites of one line of a file. -/
structure Group where
  file : String
  line : Nat
  sites : List MutationSite
  deriving DecidableEq, Inhabited

/-- Adds a site at the end of its line. -/
def addToLine (s : MutationSite) (lines : List (Nat × List MutationSite)) :
    List (Nat × List MutationSite) :=
  Keyed.update (fun a b => decide (a < b)) (lineOf s) (fun sites => sites.getD [] ++ [s]) lines

/-- The sites by file and line. -/
def byFile (rename : String → String) (sites : List MutationSite) :
    List (String × List (Nat × List MutationSite)) :=
  sites.foldl (fun files s =>
    Keyed.update (fun a b => decide (a < b)) (fileOf rename s)
      (fun lines => addToLine s (lines.getD [])) files) []

def groups (rename : String → String) (sites : List MutationSite) : List Group :=
  (byFile rename sites).flatMap fun (file, lines) =>
    lines.map fun (line, sites) => ⟨file, line, sites⟩

/-- The sites in the order in which they are listed. -/
def listed (rename : String → String) (sites : List MutationSite) : List MutationSite :=
  (groups rename sites).flatMap Group.sites

/-! ### Source lines -/

/-- The lines of a text. A line feed, which a carriage return may precede, ends a line. -/
def lines : List Char → List (List Char)
  | [] => []
  | '\r' :: '\n' :: rest => [] :: lines rest
  | '\n' :: rest => [] :: lines rest
  | c :: rest =>
    match lines rest with
    | [] => [[c]]
    | line :: others => (c :: line) :: others

/-- A line of a text; the first has the number one. -/
def line? (text : String) (number : Nat) : Option String :=
  if number = 0 then none else ((lines text.toList)[number - 1]?).map String.ofList

/-! ### Printing -/

def entry (coloured : Bool) (g : Group) (source : String) (s : MutationSite) : String :=
  let place := if g.line = 0 then g.file else g.file ++ ":" ++ Decimal.natText g.line
  place ++ " (" ++ s.id.method.text ++ "):\n" ++
    s.category.colour.paintIf coloured s.category.tag ++ " #" ++ Decimal.natText s.ordinal ++
    " [" ++ String.ofList (s.id.fingerprint.toList.take 8) ++ "] " ++ s.id.operator ++ ": " ++
    s.description ++ "\n" ++ source ++ "\n"

variable {m : Type → Type} [Monad m] [Workspace m]

/-- The source line of a group; empty if it cannot be read. -/
def sourceLine (g : Group) : m String := do
  if g.file = unknownFile ∨ g.line = 0 then return ""
  match ← Workspace.readText? g.file with
  | none => return ""
  | some text => return (line? text g.line).getD ""

/-- Prints the listing and logs the summary. -/
def print (rename : String → String) (sites : List MutationSite) : m Unit := do
  let coloured ← Workspace.isColoured
  (groups rename sites).forM fun g => do
    let source ← sourceLine g
    g.sites.forM fun s => Workspace.print (entry coloured g source s)
  Workspace.log (SiteSummary.of sites).log

end Listing

end BytecodeMutation
