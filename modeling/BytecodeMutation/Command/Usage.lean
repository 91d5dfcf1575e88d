import BytecodeMutation.Text.Similarity

/-! The arguments of a command line: options, each with a value, and operands in any order. Two
hyphens end the options. Faults in the form of the arguments are found while they are read, all
others afterwards. -/

namespace BytecodeMutation

/-- Why there is no command to run. -/
inductive UsageError where
  | helpRequested
  | versionRequested
  | commandMissing
  /-- The command is unknown, but another one has a similar name. -/
  | commandMisspelt
  /-- Help was requested for an unknown command. -/
  | helpUnavailable
  | unexpectedArgument
  | argumentMissing
  | valueMissing
  /-- A value that is none of the possible ones. -/
  | valueImpossible
  /-- A value that does not have the form of its option. -/
  | valueMalformed
  | optionRepeated
  /-- A value for an option that takes none. -/
  | valueUnneeded
  deriving DecidableEq, Inhabited

namespace Usage

/-- An option with its two names and what may be wrong with a value. -/
structure OptionForm where
  name : String
  letter : Char
  required : Bool
  fault? : String → Option UsageError

/-- The arguments that a command takes. -/
structure Form where
  options : List OptionForm
  leastOperands : Nat
  /-- Unlimited if absent. -/
  mostOperands : Option Nat

/-- Arguments by their meaning. An option stands by its name with the value given for it, if one is.
-/
structure Given where
  options : List (String × Option String)
  operands : List String
  deriving DecidableEq, Inhabited

namespace Given

def empty : Given := ⟨[], []⟩

def addOption (g : Given) (name : String) (value? : Option String) : Given :=
  { g with options := g.options ++ [(name, value?)] }

def addOperand (g : Given) (operand : String) : Given :=
  { g with operands := g.operands ++ [operand] }

/-- The values given for an option. -/
def values (g : Given) (name : String) : List String :=
  g.options.filterMap fun (n, value?) => if n = name then value? else none

def value? (g : Given) (name : String) : Option String := (g.values name).head?

/-- Whether the option occurs, with or without a value. -/
def has (g : Given) (name : String) : Bool := g.options.any fun (n, _) => n == name

end Given

/-! ### The form of one argument -/

/-- What an argument looks like on its own. -/
inductive Shape where
  /-- Two hyphens alone. -/
  | separator
  /-- Two hyphens, a name, and a value after an equals sign. -/
  | long (name : String) (value? : Option String)
  /-- A hyphen, a letter, and what follows at once. -/
  | short (letter : Char) (rest : List Char)
  | plain
  deriving DecidableEq, Inhabited

/-- Splits a text at its first equals sign. -/
def splitAtEquals (cs : List Char) : String × Option String :=
  match cs.dropWhile (· != '=') with
  | [] => (String.ofList cs, none)
  | _ :: value => (String.ofList (cs.takeWhile (· != '=')), some (String.ofList value))

def Shape.of (argument : String) : Shape :=
  match argument.toList with
  | ['-', '-'] => .separator
  | '-' :: '-' :: rest =>
    let (name, value?) := splitAtEquals rest
    .long name value?
  | '-' :: letter :: rest => .short letter rest
  | _ => .plain

/-- The value that follows the letter of an option at once; an equals sign may precede it. -/
def attachedValue? : List Char → Option String
  | [] => none
  | '=' :: rest => some (String.ofList rest)
  | rest => some (String.ofList rest)

/-! ### Reading -/

/-- The arguments read so far, and the option whose value comes next. -/
structure Progress where
  given : Given
  pending : Option String
  onlyOperands : Bool
  deriving DecidableEq, Inhabited

namespace Progress

def start : Progress := ⟨.empty, none, false⟩

/-- What is given if no value comes for the pending option. -/
def settled (p : Progress) : Given :=
  match p.pending with
  | some name => p.given.addOption name none
  | none => p.given

def readOption (p : Progress) (name : String) : Option String → Progress
  | some value => { p with given := p.settled.addOption name (some value), pending := none }
  | none => { p with given := p.settled, pending := some name }

def readOperand (p : Progress) (form : Form) (operand : String) : Except UsageError Progress :=
  if form.mostOperands.any fun most => most ≤ p.given.operands.length then
    .error .unexpectedArgument
  else .ok { p with given := p.settled.addOperand operand, pending := none }

def read (form : Form) (p : Progress) (argument : String) : Except UsageError Progress :=
  if p.onlyOperands then p.readOperand form argument
  else
    match Shape.of argument with
    | .separator => .ok { p with onlyOperands := true }
    | .long name value? =>
      if name = "help" then
        .error (if value?.isSome then .valueUnneeded else .helpRequested)
      else if form.options.any fun o => o.name == name then .ok (p.readOption name value?)
      else .error .unexpectedArgument
    | .short letter rest =>
      if letter = 'h' then .error .helpRequested
      else
        match form.options.find? fun o => o.letter == letter with
        | some o => .ok (p.readOption o.name (attachedValue? rest))
        | none => .error .unexpectedArgument
    | .plain =>
      match p.pending with
      | some name => .ok { p with given := p.given.addOption name (some argument), pending := none }
      | none => p.readOperand form argument

/-- An option at the very end needs a value, unless it has got one before. -/
def finish (p : Progress) : Except UsageError Given :=
  if p.pending.any fun name => (p.given.values name).isEmpty then .error .valueMissing
  else .ok p.settled

end Progress

/-! ### Checking -/

/-- What is wrong with the values given for an option. -/
def OptionForm.faultIn? (o : OptionForm) (g : Given) : Option UsageError :=
  let values := g.values o.name
  if values.isEmpty then some .valueMissing
  else
    match values.findSome? o.fault? with
    | some fault => some fault
    | none =>
      if (g.options.filter fun (n, _) => n == o.name).length > 1 then some .optionRepeated
      else none

namespace Form

/-- Whether nothing that is required is missing. -/
def isComplete (form : Form) (g : Given) : Bool :=
  (form.options.all fun o => !o.required || g.has o.name) &&
    form.leastOperands ≤ g.operands.length

/-- Reads the arguments of a command. Faults of options count in the order of their occurrence. -/
def read (form : Form) (arguments : List String) : Except UsageError Given := do
  let given ← (← arguments.foldlM (Progress.read form) Progress.start).finish
  if !form.isComplete given then throw .argumentMissing
  let fault? := given.options.findSome? fun (name, _) =>
    (form.options.find? fun o => o.name == name).bind fun o => o.faultIn? given
  match fault? with
  | some fault => throw fault
  | none => return given

end Form

end Usage

end BytecodeMutation
