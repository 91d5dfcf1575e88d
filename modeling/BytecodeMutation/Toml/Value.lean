/-! TOML values. -/

namespace BytecodeMutation.Toml

/-- A value. The entries of a table keep their order and may repeat a key. No setting is a fraction
or a point in time, so of these two only the form is checked. -/
inductive Value where
  | string (s : String)
  | integer (n : Int)
  | fraction
  | boolean (b : Bool)
  | time
  | array (items : List Value)
  /-- A table that dotted keys put together can be extended by further ones. -/
  | table (dotted : Bool) (entries : List (String × Value))
  deriving Inhabited

abbrev Entries := List (String × Value)

/-- Adds a value under a dotted key, which leads through tables that dotted keys have made. A last
part that exists already is added again. -/
def Entries.add? : Entries → List String → Value → Option Entries
  | _, [], _ => none
  | entries, [key], v => some (entries ++ [(key, v)])
  | entries, key :: rest, v =>
    match entries.findIdx? fun e => e.1 == key with
    | none => (add? [] rest v).map fun inner => entries ++ [(key, .table true inner)]
    | some i =>
      match entries[i]? with
      | some (_, .table true inner) =>
        (add? inner rest v).map fun inner => entries.set i (key, .table true inner)
      | _ => none

end BytecodeMutation.Toml
