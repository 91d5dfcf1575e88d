/-! The text of a new configuration file. It says what can be set and sets what is usual. -/

namespace BytecodeMutation.Config

def template : String :=
  String.intercalate "\n" [
    "[engine]",
    "# Number of threads used to discover mutation sites.",
    "# Defaults to the number of CPUs.",
    "# threads = 4",
    "",
    "[operators]",
    "# Operators or operator groups to enable. Run `jvmut list-operators`",
    "# to see all of them. Groups: all, aor, aor_i, aor_l, aor_f, aor_d,",
    "# obbn, ror, groovy, aod, crcr, uoi, abs, call",
    "enabled = [\"all\"]",
    "",
    "[filter]",
    "# Regular expressions matched against internal class names",
    "# (e.g. com/example/Calculator). Without a list, every class is mutated.",
    "# allowed_classes = [\"^com/example/\"]",
    "",
    "# Regular expressions matched against method names.",
    "# allowed_methods = [\"^compute\"]",
    "",
    "[catalog]",
    "# Signature catalog written by `jvmut build-catalog`, relative to",
    "# this file. Call substitution finds no candidates without it.",
    "path = \"jvmut-catalog.json\"",
    "",
    "[report]",
    "# Rewrite source file paths before reading them, e.g. to prepend the",
    "# source root.",
    "# path_rewrite = [\"^\", \"src/main/java/\"]",
    ""]

end BytecodeMutation.Config
