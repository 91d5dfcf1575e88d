import BytecodeMutation.Error
import BytecodeMutation.Path
import BytecodeMutation.Toml.Document

/-! The configuration: which operators are enabled, which classes and methods are mutated, where the
signature catalog is kept and how reports name source files. It is written in TOML, one section for
each of these; sections and settings may be absent, and unknown ones are ignored. -/

namespace BytecodeMutation

structure Config where
  /-- The number of threads that may be used; the results do not depend on it. -/
  threads : Option Nat
  /-- Names of operators and groups. -/
  enabled : List String
  allowedClasses : Option (List String)
  allowedMethods : Option (List String)
  catalogPath : Option String
  /-- A pattern and the replacement of its first match. -/
  pathReplacement : Option (String × String)
  deriving DecidableEq, Inhabited

namespace Config

def defaultEnabled : List String := ["all"]

def default : Config := ⟨none, defaultEnabled, none, none, none, none⟩

end Config

namespace Toml.Value

def string? : Value → Option String
  | string s => some s
  | _ => none

def strings? : Value → Option (List String)
  | array items => items.mapM string?
  | _ => none

def nat? : Value → Option Nat
  | integer n => if 0 ≤ n then some n.toNat else none
  | _ => none

def pair? : Value → Option (String × String)
  | array [a, b] => do return (← a.string?, ← b.string?)
  | _ => none

/-- The only value under a key, if there is one. -/
def lookup? (key : String) (entries : Entries) : Option (Option Value) :=
  match entries.filter fun e => e.1 == key with
  | [] => some none
  | [e] => some (some e.2)
  | _ => none

/-- The values of the named settings of a section. A section may also be written as the list of its
settings in order, and a point in time is a section without settings. -/
def settings? (names : List String) : Value → Option (List (Option Value))
  | table _ entries => names.mapM fun name => lookup? name entries
  | array items => if items.length = names.length then some (items.map some) else none
  | time => some (names.map fun _ => none)
  | _ => none

end Toml.Value

namespace Config

open Toml (Entries Value)

/-- The settings of a section, all absent if the section is. -/
def section? (entries : Entries) (name : String) (settings : List String) :
    Option (List (Option Value)) := do
  match ← Value.lookup? name entries with
  | none => some (settings.map fun _ => none)
  | some v => v.settings? settings

/-- An optional setting. -/
def setting? {α : Type} (read? : Value → Option α) : Option Value → Option (Option α)
  | none => some none
  | some v => (read? v).map some

def threads? (entries : Entries) : Option (Option Nat) := do
  match ← section? entries "engine" ["threads"] with
  | [threads] => setting? Value.nat? threads
  | _ => none

/-- The enabled operators; an empty list in the place of the section leaves the default. -/
def enabled? (entries : Entries) : Option (List String) := do
  match ← Value.lookup? "operators" entries with
  | some (.array []) => some defaultEnabled
  | _ =>
    match ← section? entries "operators" ["enabled"] with
    | [enabled] => (setting? Value.strings? enabled).map fun names => names.getD defaultEnabled
    | _ => none

def allowLists? (entries : Entries) : Option (Option (List String) × Option (List String)) := do
  match ← section? entries "filter" ["allowed_classes", "allowed_methods"] with
  | [classes, methods] =>
    some (← setting? Value.strings? classes, ← setting? Value.strings? methods)
  | _ => none

def catalogPath? (entries : Entries) : Option (Option String) := do
  match ← section? entries "catalog" ["path"] with
  | [path] => setting? Value.string? path
  | _ => none

def pathReplacement? (entries : Entries) : Option (Option (String × String)) := do
  match ← section? entries "report" ["path_rewrite"] with
  | [rename] => setting? Value.pair? rename
  | _ => none

def ofEntries? (entries : Entries) : Option Config := do
  let threads ← threads? entries
  let enabled ← enabled? entries
  let (allowedClasses, allowedMethods) ← allowLists? entries
  return {
    threads, enabled, allowedClasses, allowedMethods
    catalogPath := ← catalogPath? entries
    pathReplacement := ← pathReplacement? entries }

/-- Reads a configuration. The path of the catalog is relative to the directory that the text is
kept in. -/
def ofText (directory text : String) : Except Error Config :=
  match (Toml.ofText? text).bind ofEntries? with
  | none => .error .configSyntax
  | some config => .ok { config with catalogPath := config.catalogPath.map (Path.join directory) }

end Config

end BytecodeMutation
