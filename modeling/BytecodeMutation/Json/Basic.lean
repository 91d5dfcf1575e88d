import BytecodeMutation.Binary.Basic
import BytecodeMutation.Decimal.Digits

/-! JSON values. A number is kept as it is written, a string as its text; the members of an object
keep their order and may repeat a key. -/

namespace BytecodeMutation

/-- The written parts of a JSON number. An absent fraction or exponent is an empty list; an exponent
may begin with a sign. -/
structure Json.Numeral where
  negative : Bool
  whole : List Char
  fraction : List Char
  exponent : List Char
  deriving DecidableEq, Inhabited

/-- The text of a string literal; `none` for one whose escapes name half of a surrogate pair, which
is well-formed and stands for no text. -/
abbrev Json.Text := Option String

inductive Json where
  | null
  | bool (b : Bool)
  | number (n : Json.Numeral)
  | string (s : Json.Text)
  | array (items : List Json)
  | object (members : List (Json.Text × Json))
  deriving Inhabited

namespace Json

def text (s : String) : Json := string (some s)

def Numeral.ofInt (n : Int) : Numeral := ⟨n < 0, Decimal.digits n.natAbs, [], []⟩

def int (n : Int) : Json := number (Numeral.ofInt n)

def nat (n : Nat) : Json := int n

def record (members : List (String × Json)) : Json :=
  object (members.map fun (k, v) => (some k, v))

/-- The value under a single key. -/
def tagged (key : String) (v : Json) : Json := record [(key, v)]

def texts (ss : List String) : Json := array (ss.map text)

def orNull : Option Json → Json
  | some v => v
  | none => null

/-! ### Reading back -/

def bool? : Json → Option Bool
  | bool b => some b
  | _ => none

def text? : Json → Option String
  | string s => s
  | _ => none

def array? : Json → Option (List Json)
  | array items => some items
  | _ => none

/-- An integer is written without point and exponent; minus zero is none. -/
def Numeral.int? (n : Numeral) : Option Int :=
  if n.fraction.isEmpty && n.exponent.isEmpty then
    let v := Decimal.value n.whole
    if n.negative then if v = 0 then none else some (-(v : Int)) else some v
  else none

/-- An integer between the two bounds. -/
def intIn? (least greatest : Int) : Json → Option Int
  | number n => n.int?.filter fun v => least ≤ v && v ≤ greatest
  | _ => none

def natBelow? (bound : Nat) (j : Json) : Option Nat := (j.intIn? 0 (bound - 1)).map Int.toNat

/-- Reads every item, or none. -/
def listOf? {α : Type} (item? : Json → Option α) (j : Json) : Option (List α) :=
  j.array?.bind fun items => items.mapM item?

/-- The only value under a key; an error if the key is repeated. -/
def lookup? (key : String) (members : List (Text × Json)) : Option (Option Json) :=
  match members.filter fun m => m.1 == some key with
  | [] => some none
  | [m] => some (some m.2)
  | _ => none

/-- The values of the named fields of a record, which is written as an object, with other members
ignored, or as the list of all its fields in order. -/
def fields? (names : List String) : Json → Option (List (Option Json))
  | object members =>
    if members.all fun m => m.1.isSome then names.mapM fun name => lookup? name members else none
  | array items => if items.length = names.length then some (items.map some) else none
  | _ => none

/-- A choice among named alternatives: a key with its value, or the key alone. -/
def choice? : Json → Option (String × Option Json)
  | string (some key) => some (key, none)
  | object [(some key, v)] => some (key, some v)
  | _ => none

/-- The pair in a list of two. -/
def pair? : Json → Option (Json × Json)
  | array [a, b] => some (a, b)
  | _ => none

end Json

end BytecodeMutation
