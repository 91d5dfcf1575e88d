import BytecodeMutation.Command.Basic

/-! The texts that stand in for a command that cannot be run. -/

namespace BytecodeMutation

namespace Usage

/-- How an option is written. -/
def OptionForm.synopsis (o : OptionForm) : String :=
  let text := "-" ++ String.singleton o.letter ++ ", --" ++ o.name ++ " VALUE"
  if o.required then text else "[" ++ text ++ "]"

/-- How operands are written: in brackets if they may be absent, with dots if there may be several.
-/
def Form.operandSynopsis (form : Form) : List String :=
  let text := if form.mostOperands.isNone then "PATH..." else "PATH"
  if form.mostOperands = some 0 then []
  else if form.leastOperands = 0 then ["[" ++ text ++ "]"]
  else [text]

end Usage

namespace Command

def Entry.synopsis (e : Entry) : String :=
  String.intercalate " "
    (e.name :: e.form.options.map Usage.OptionForm.synopsis ++ e.form.operandSynopsis)

def helpText : String :=
  String.join ("Commands:\n" :: entries.map fun e => "  " ++ e.synopsis ++ "\n")

def version : String := "0.1.0"

end Command

/-- What is wrong with the arguments. -/
def UsageError.message : UsageError → String
  | helpRequested => "help requested"
  | versionRequested => "version requested"
  | commandMissing => "a command is required"
  | commandMisspelt => "unknown command with a name similar to another"
  | helpUnavailable => "unknown command"
  | unexpectedArgument => "unexpected argument"
  | argumentMissing => "a required argument is missing"
  | valueMissing => "an option lacks its value"
  | valueImpossible => "an option has an impossible value"
  | valueMalformed => "an option has a malformed value"
  | optionRepeated => "an option is given more than once"
  | valueUnneeded => "an option takes no value"

end BytecodeMutation
