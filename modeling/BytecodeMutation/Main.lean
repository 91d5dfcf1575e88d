import BytecodeMutation.Command.Help
import BytecodeMutation.Command.Run

/-! The command line: commands work on the files of the system, print to the standard output, and
log to the standard error. -/

namespace BytecodeMutation

/-- Whether an action succeeds. -/
def succeeds (action : IO Unit) : IO Bool := do
  try
    action
    return true
  catch _ => return false

/-- Whether a path can be opened, as files and directories can. -/
def opens (path : String) : IO Bool :=
  succeeds do discard (IO.FS.Handle.mk path .read)

/-- Whether bytes can be read from a path, as from files alone. -/
def yieldsBytes (path : String) : IO Bool :=
  succeeds do discard ((← IO.FS.Handle.mk path .read).read 1)

instance : Workspace IO where
  isFile := yieldsBytes
  isPresent := opens
  readText? path := do
    try return some (← IO.FS.readFile path)
    catch _ => return none
  writeText path text := succeeds (IO.FS.writeFile path text)
  moveFile source target := succeeds (IO.FS.rename source target)
  print text := IO.print text
  log records := records.forM fun r => IO.eprintln ("[" ++ r.level.name ++ "] " ++ r.text)
  isColoured := do (← IO.getStdout).isTty

/-- Runs a command; the exit code tells whether it succeeded. -/
def runCommand (command : Command) : IO UInt32 := do
  match ← (command.run : ExceptT Failure IO Unit).run with
  | .ok () => return 0
  | .error f =>
    IO.eprintln ("Error: " ++ f.message)
    return 1

/-- The exit code when there is no command to run. -/
def explain : UsageError → IO UInt32
  | .helpRequested => do
    IO.print Command.helpText
    return 0
  | .versionRequested => do
    IO.println Command.version
    return 0
  | e => do
    IO.eprintln ("error: " ++ e.message)
    IO.eprint Command.helpText
    return 2

end BytecodeMutation

def main (arguments : List String) : IO UInt32 :=
  match BytecodeMutation.Command.ofArguments arguments with
  | .ok command => BytecodeMutation.runCommand command
  | .error e => BytecodeMutation.explain e
