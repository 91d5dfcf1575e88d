import BytecodeMutation.Config.Basic
import BytecodeMutation.Failure
import BytecodeMutation.Pattern.Basic
import BytecodeMutation.Site.Basic

/-! How reports name source files: the configuration may replace a part of every name. -/

namespace BytecodeMutation

/-- The function on file names that a configuration describes. -/
def Config.fileRenaming (config : Config) : Except Failure (String → String) :=
  match config.pathReplacement with
  | none => .ok id
  | some (pattern, replacement) =>
    match Pattern.ofString? pattern with
    | some p => .ok (p.replaceFirst replacement)
    | none =>
      .error ⟨["Failed to compile path replacement regex \"" ++ pattern ++ "\""], .renamingPattern⟩

/-- The file that a report gives for a site. -/
def MutationSite.reportedFile? (rename : String → String) (s : MutationSite) : Option String :=
  s.location.file.map rename

end BytecodeMutation
