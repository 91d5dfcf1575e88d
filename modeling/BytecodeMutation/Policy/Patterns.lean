import BytecodeMutation.Error
import BytecodeMutation.Pattern.Basic
import BytecodeMutation.Policy

/-! Policies whose allow lists consist of regular expressions. A name is admitted where one of them
matches anywhere in it. -/

namespace BytecodeMutation

def Pattern.read (text : String) : Except Error Pattern :=
  match Pattern.ofString? text with
  | some pattern => .ok pattern
  | none => .error .pattern

/-- The policy of two lists of patterns; all of them have to be well formed. -/
def MutationPolicy.ofPatterns (classes methods : List String) : Except Error MutationPolicy := do
  let classes ← classes.mapM Pattern.read
  let methods ← methods.mapM Pattern.read
  return .ofLists Pattern.occursIn classes methods

end BytecodeMutation
