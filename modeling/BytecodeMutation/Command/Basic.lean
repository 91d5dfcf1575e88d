import BytecodeMutation.Command.Usage
import BytecodeMutation.Decimal.Digits

/-! The commands and their arguments. -/

namespace BytecodeMutation

inductive ReportFormat where
  | console
  | json
  deriving DecidableEq, Inhabited

namespace ReportFormat

def all : List ReportFormat := [console, json]

def name : ReportFormat → String
  | console => "console"
  | json => "json"

def ofName? (name : String) : Option ReportFormat := all.find? fun f => f.name == name

end ReportFormat

/-- A command; configurations, outputs and units are paths. -/
inductive Command where
  | listOperators (config : Option String)
  | buildCatalog (config output : Option String) (units : List String)
  | listMutants (config : Option String) (report : ReportFormat) (units : List String)
  | mutate (config : Option String) (index : Nat) (output : Option String) (unit : String)
  | newConfig (path : Option String)
  deriving DecidableEq, Inhabited

namespace Command

open Usage (OptionForm Form Given)

/-! ### Options -/

def configOption : OptionForm := ⟨"config", 'c', false, fun _ => none⟩

def outputOption : OptionForm := ⟨"output", 'o', false, fun _ => none⟩

def reportOption : OptionForm :=
  ⟨"report", 'r', false, fun v =>
    if (ReportFormat.ofName? v).isSome then none else some .valueImpossible⟩

def indexOption : OptionForm :=
  ⟨"index", 'n', true, fun v => if (Decimal.word? v).isSome then none else some .valueMalformed⟩

/-! ### Names -/

/-- A command by its name: the arguments that it takes and their meaning. -/
structure Entry where
  name : String
  form : Form
  ofGiven : Given → Command

def entries : List Entry := [
  ⟨"list-operators", ⟨[configOption], 0, some 0⟩, fun g => listOperators (g.value? "config")⟩,
  ⟨"build-catalog", ⟨[configOption, outputOption], 1, none⟩, fun g =>
    buildCatalog (g.value? "config") (g.value? "output") g.operands⟩,
  ⟨"list-mutants", ⟨[configOption, reportOption], 1, none⟩, fun g =>
    listMutants (g.value? "config") (((g.value? "report").bind ReportFormat.ofName?).getD .console)
      g.operands⟩,
  ⟨"mutate", ⟨[configOption, indexOption, outputOption], 1, some 1⟩, fun g =>
    mutate (g.value? "config") (((g.value? "index").bind Decimal.word?).getD 0) (g.value? "output")
      (g.operands.head?.getD "")⟩,
  ⟨"new-config", ⟨[], 0, some 1⟩, fun g => newConfig g.operands.head?⟩]

def names : List String := entries.map Entry.name ++ ["help"]

/-- The error on a word that should be the name of a command. -/
def unknownCommand (word : String) : UsageError :=
  if names.any fun name => Text.similarity word name > 0.8 then .commandMisspelt
  else .unexpectedArgument

/-- The outcome of a request for help on commands; a command has no commands of its own. -/
def help : List String → UsageError
  | [] => .helpRequested
  | [name] => if names.contains name then .helpRequested else .helpUnavailable
  | _ => .helpUnavailable

/-! ### Reading -/

/-- The outcome of a first argument that is an option. -/
def topOption : Usage.Shape → Option UsageError
  | .long name value? =>
    if name = "help" ∨ name = "version" then
      if value?.isSome then some .valueUnneeded
      else if name = "help" then some .helpRequested
      else some .versionRequested
    else some .unexpectedArgument
  | .short letter _ =>
    if letter = 'h' then some .helpRequested
    else if letter = 'V' then some .versionRequested
    else some .unexpectedArgument
  | .separator | .plain => none

/-- Reads a command. It is named first; after two hyphens no name is expected any more. -/
def ofArguments : List String → Except UsageError Command
  | [] => .error .commandMissing
  | first :: rest =>
    match entries.find? fun e => e.name == first with
    | some e => (e.form.read rest).map e.ofGiven
    | none =>
      if first = "help" then .error (help rest)
      else if first = "--" then
        .error (match rest with
          | [] => .commandMissing
          | word :: _ => if names.contains word then .unexpectedArgument else unknownCommand word)
      else .error ((topOption (.of first)).getD (unknownCommand first))

end Command

end BytecodeMutation
