import BytecodeMutation.Pattern.CharSet
import BytecodeMutation.Pattern.WordTable
import BytecodeMutation.Pattern.CaseTable
import BytecodeMutation.Pattern.CategoryTable
import BytecodeMutation.Pattern.ScriptTable

/-! Sets of characters that patterns refer to by name: the letters after a backslash, the POSIX
classes of bracket expressions and the Unicode properties. -/

namespace BytecodeMutation.Pattern

/-! ### Classes of one letter -/

/-- The set of the lower case letter `d`, `s` or `w`, over all characters or over ASCII. -/
def letterClass? (unicode : Bool) : Char → Option CharSet
  | 'd' => some ⟨if unicode then digitRanges else [(0x30, 0x39)]⟩
  | 's' => some ⟨if unicode then spaceRanges else [(0x09, 0x0d), (0x20, 0x20)]⟩
  | 'w' =>
    some ⟨if unicode then wordRanges
      else [(0x30, 0x39), (0x41, 0x5a), (0x5f, 0x5f), (0x61, 0x7a)]⟩
  | _ => none

def isWordChar (unicode : Bool) (c : Char) : Bool :=
  ((letterClass? unicode 'w').getD .empty).contains c

def isBlank (c : Char) : Bool := (CharSet.mk spaceRanges).contains c

def isAlphabetic (c : Char) : Bool := (CharSet.mk alphabeticRanges).contains c

def isNumeric (c : Char) : Bool :=
  (CharSet.mk (categoryNd ++ categoryNl ++ categoryNo)).contains c

/-! ### POSIX classes -/

def posixClass? : String → Option CharSet
  | "alnum" => some ⟨[(0x30, 0x39), (0x41, 0x5a), (0x61, 0x7a)]⟩
  | "alpha" => some ⟨[(0x41, 0x5a), (0x61, 0x7a)]⟩
  | "ascii" => some ⟨[(0x00, 0x7f)]⟩
  | "blank" => some ⟨[(0x09, 0x09), (0x20, 0x20)]⟩
  | "cntrl" => some ⟨[(0x00, 0x1f), (0x7f, 0x7f)]⟩
  | "digit" => some ⟨[(0x30, 0x39)]⟩
  | "graph" => some ⟨[(0x21, 0x7e)]⟩
  | "lower" => some ⟨[(0x61, 0x7a)]⟩
  | "print" => some ⟨[(0x20, 0x7e)]⟩
  | "punct" => some ⟨[(0x21, 0x2f), (0x3a, 0x40), (0x5b, 0x60), (0x7b, 0x7e)]⟩
  | "space" => some ⟨[(0x09, 0x0d), (0x20, 0x20)]⟩
  | "upper" => some ⟨[(0x41, 0x5a)]⟩
  | "word" => some ⟨[(0x30, 0x39), (0x41, 0x5a), (0x5f, 0x5f), (0x61, 0x7a)]⟩
  | "xdigit" => some ⟨[(0x30, 0x39), (0x41, 0x46), (0x61, 0x66)]⟩
  | _ => none

/-! ### Unicode properties -/

/-- Names are compared in lower case, without blanks, hyphens, underscores and a leading `is`. -/
def normalizeName (name : List Char) : String :=
  let kept := (name.filter fun c => !(isBlank c || c == '_' || c == '-')).map Char.toLower
  match kept with
  | 'i' :: 's' :: rest => if rest == ['c'] then "isc" else String.ofList rest
  | _ => String.ofList kept

/-- The long names of the general categories. -/
def categoryNames : List (String × String) := [
  ("uppercaseletter", "lu"), ("lowercaseletter", "ll"), ("titlecaseletter", "lt"),
  ("modifierletter", "lm"), ("otherletter", "lo"), ("nonspacingmark", "mn"),
  ("spacingmark", "mc"), ("enclosingmark", "me"), ("decimalnumber", "nd"), ("digit", "nd"),
  ("letternumber", "nl"), ("othernumber", "no"), ("connectorpunctuation", "pc"),
  ("dashpunctuation", "pd"), ("openpunctuation", "ps"), ("closepunctuation", "pe"),
  ("initialpunctuation", "pi"), ("finalpunctuation", "pf"), ("otherpunctuation", "po"),
  ("mathsymbol", "sm"), ("currencysymbol", "sc"), ("modifiersymbol", "sk"),
  ("othersymbol", "so"), ("spaceseparator", "zs"), ("lineseparator", "zl"),
  ("paragraphseparator", "zp"), ("control", "cc"), ("cntrl", "cc"), ("format", "cf"),
  ("privateuse", "co"), ("unassigned", "cn")]

/-- The names of unions of general categories, with their members. -/
def categoryGroups : List (String × List String) := [
  ("lc", ["lu", "ll", "lt"]), ("casedletter", ["lu", "ll", "lt"]),
  ("l", ["lu", "ll", "lt", "lm", "lo"]), ("letter", ["lu", "ll", "lt", "lm", "lo"]),
  ("m", ["mn", "mc", "me"]), ("mark", ["mn", "mc", "me"]),
  ("combiningmark", ["mn", "mc", "me"]),
  ("n", ["nd", "nl", "no"]), ("number", ["nd", "nl", "no"]),
  ("p", ["pc", "pd", "ps", "pe", "pi", "pf", "po"]),
  ("punct", ["pc", "pd", "ps", "pe", "pi", "pf", "po"]),
  ("punctuation", ["pc", "pd", "ps", "pe", "pi", "pf", "po"]),
  ("s", ["sm", "sc", "sk", "so"]), ("symbol", ["sm", "sc", "sk", "so"]),
  ("z", ["zs", "zl", "zp"]), ("separator", ["zs", "zl", "zp"]),
  ("c", ["cc", "cf", "co", "cn"]), ("other", ["cc", "cf", "co", "cn"])]

def category? (name : String) : Option CharSet :=
  match name with
  | "any" => some ⟨[(0, CharSet.lastPoint)]⟩
  | "ascii" => some ⟨[(0, 0x7f)]⟩
  | "assigned" => some (CharSet.mk categoryCn).complement
  | _ =>
    match categoryGroups.lookup name with
    | some members => some (CharSet.ofRuns (members.flatMap fun m => (categories.lookup m).getD []))
    | none => (categories.lookup ((categoryNames.lookup name).getD name)).map CharSet.mk

/-- The short names of scripts. -/
def scriptNames : List (String × String) := [
  ("arab", "arabic"), ("armn", "armenian"), ("beng", "bengali"), ("cyrl", "cyrillic"),
  ("deva", "devanagari"), ("ethi", "ethiopic"), ("geor", "georgian"), ("grek", "greek"),
  ("gujr", "gujarati"), ("hani", "han"), ("hang", "hangul"), ("hebr", "hebrew"),
  ("hira", "hiragana"), ("kana", "katakana"), ("khmr", "khmer"), ("latn", "latin"),
  ("taml", "tamil"), ("telu", "telugu"), ("tibt", "tibetan")]

def script? (name : String) : Option CharSet :=
  (scripts.lookup ((scriptNames.lookup name).getD name)).map CharSet.mk

/-- The properties that a character has or has not. -/
def binaryProperty? : String → Option CharSet
  | "alphabetic" | "alpha" => some ⟨alphabeticRanges⟩
  | "lowercase" | "lower" => some ⟨lowercaseRanges⟩
  | "uppercase" | "upper" => some ⟨uppercaseRanges⟩
  | "whitespace" | "wspace" | "space" => some ⟨spaceRanges⟩
  | "asciihexdigit" | "ahex" => some ⟨[(0x30, 0x39), (0x41, 0x46), (0x61, 0x66)]⟩
  | "hexdigit" | "hex" =>
    some ⟨[(0x30, 0x39), (0x41, 0x46), (0x61, 0x66), (0xff10, 0xff19), (0xff21, 0xff26),
      (0xff41, 0xff46)]⟩
  | "joincontrol" | "joinc" => some ⟨[(0x200c, 0x200d)]⟩
  | _ => none

/-- A property with a name alone: a binary property, a general category or a script. -/
def namedProperty? (name : List Char) : Option CharSet :=
  let name := normalizeName name
  (binaryProperty? name <|> category? name) <|> script? name

/-- A property with a name and a value. -/
def valuedProperty? (name value : List Char) : Option CharSet :=
  let value := normalizeName value
  match normalizeName name with
  | "generalcategory" | "gc" => category? value
  | "script" | "sc" => script? value
  | _ => none

/-- Splits a text at the first occurrence of a separator. -/
def splitAt? (separator : List Char) : List Char → Option (List Char × List Char)
  | [] => none
  | c :: rest =>
    if separator.isPrefixOf (c :: rest) then some ([], (c :: rest).drop separator.length)
    else (splitAt? separator rest).map fun (before, after) => (c :: before, after)

/-- The property between braces: `name`, `name=value`, `name:value` or the negated
`name!=value`. -/
def property? (text : List Char) : Option CharSet :=
  match splitAt? ['!', '='] text with
  | some (name, value) => (valuedProperty? name value).map CharSet.complement
  | none =>
    match splitAt? [':'] text <|> splitAt? ['='] text with
    | some (name, value) => valuedProperty? name value
    | none => namedProperty? text

end BytecodeMutation.Pattern
