import BytecodeMutation.ClassUnit.File
import BytecodeMutation.Command.Basic
import BytecodeMutation.Config.File
import BytecodeMutation.Config.Template
import BytecodeMutation.Engine.SetUp
import BytecodeMutation.Report.Json
import BytecodeMutation.Report.Listing

/-! What the commands do in a workspace. -/

namespace BytecodeMutation.Command

/-- The configuration file that is used if none is named. -/
def configFile : String := "jvmut.toml"

/-- The catalog file that is written if neither the command nor the configuration names one. -/
def catalogFile : String := "jvmut-catalog.json"

variable {m : Type → Type} [Monad m] [Workspace m] {α : Type}

def info (text : String) : m Unit := Workspace.log [⟨.info, text⟩]

/-- An error becomes the failure of the command. -/
def ofError (x : ExceptT Error m α) : ExceptT Failure m α := x.adapt Failure.ofError

/-- An error becomes the failure of what the context says. -/
def within (context : String) (x : ExceptT Error m α) : ExceptT Failure m α :=
  x.adapt fun e => (Failure.ofError e).within context

def ofExcept {ε : Type} (result : Except ε α) : ExceptT ε m α := ExceptT.mk (pure result)

/-- Writes the records of an outcome to the log. -/
def ofLogged (outcome : Logged α) : ExceptT Error m α := do
  Workspace.log outcome.log
  ofExcept outcome.result

def loadConfig : Option String → ExceptT Failure m Config
  | some path => do
    info ("Loading configuration from " ++ path)
    within ("Could not load configuration from " ++ path) (Config.ofFile path)
  | none => do
    if ← Workspace.isFile configFile then
      info ("Loading configuration from " ++ configFile)
      within ("Could not load " ++ configFile) (Config.ofFile configFile)
    else
      info "Using default configuration"
      return .default

def loadUnit (path : String) : ExceptT Failure m ClassUnit :=
  within ("Could not load class unit " ++ path) (ClassUnit.ofFile path)

/-! ### Listing operators -/

def operatorLine (coloured : Bool) (chosen : List Operator) (name : String) : String :=
  let state :=
    if Operator.isEnabled chosen name then Colour.green.paintIf coloured "enabled"
    else Colour.red.paintIf coloured "disabled"
  Text.padded 30 name ++ " " ++ state ++ "\n"

/-- Prints the names of all operators and which of them are enabled. -/
def runListOperators (config : Config) : ExceptT Failure m Unit := do
  let chosen ← within "Invalid operator configuration" (ofExcept (Operator.select config.enabled))
  let coloured ← Workspace.isColoured
  Operator.all.forM fun o => Workspace.print (operatorLine coloured chosen o.name)

/-! ### Building a catalog -/

/-- The generation of the next catalog in a file: the first, or the one after the catalog in it. -/
def nextGeneration (path : String) : m UInt64 := do
  if ← Workspace.isPresent path then return (← SignatureCatalog.loadOrEmpty path).generation + 1
  else return 0

/-- The catalog of the units whose classes the policy admits. -/
def scanUnits (generation : UInt64) (policy : MutationPolicy) (units : List ClassUnit) :
    SignatureCatalog :=
  (units.foldl (fun b u => b.scanAdmitted policy u) (CatalogBuilder.start generation)).build

def catalogPath (config : Config) (output : Option String) : String :=
  (output <|> config.catalogPath).getD catalogFile

/-- Replaces the catalog in a file by one of the units. -/
def runBuildCatalog (config : Config) (output : Option String) (units : List String) :
    ExceptT Failure m Unit := do
  let path := catalogPath config output
  let generation ← nextGeneration path
  let policy ← ofError (ofExcept config.policy)
  let catalog := scanUnits generation policy (← units.mapM loadUnit)
  Workspace.log catalog.buildLog
  within ("Could not write signature catalog to " ++ path) (catalog.save path)
  info ("Wrote signature catalog to " ++ path)

/-! ### Sites and mutants -/

def runListMutants (config : Config) (format : ReportFormat) (units : List String) :
    ExceptT Failure m Unit := do
  let loaded ← units.mapM loadUnit
  let engine ← ofError (MutationEngine.ofConfig config)
  let sites ← ofError (ofLogged (engine.discoverLogged loaded))
  let rename ← ofExcept config.fileRenaming
  match format with
  | .console => Listing.print rename sites
  | .json => Workspace.print (Json.siteReport rename units sites)

/-- Prints the mutant of a site or writes it to a file. -/
def runMutate (config : Config) (index : Nat) (output : Option String) (unit : String) :
    ExceptT Failure m Unit := do
  let u ← loadUnit unit
  let engine ← ofError (MutationEngine.ofConfig config)
  let (site, mutant) ← within ("Could not produce mutant #" ++ Decimal.natText index)
    (ofLogged (engine.mutateNthLogged [u] index))
  info ("Applied " ++ site.id.text ++ ": " ++ site.description)
  match output with
  | some path =>
    ofError (mutant.save path)
    info ("Wrote mutant to " ++ path)
  | none => Workspace.print mutant.toText

/-! ### A new configuration -/

/-- Writes a new configuration file, but not over anything. -/
def runNewConfig (path : String) : ExceptT Failure m Unit := do
  if ← Workspace.isPresent path then throw ⟨[], .refused (path ++ " already exists")⟩
  if !(← Workspace.writeText path Config.template) then
    throw ⟨["Could not write " ++ path], .unwritable⟩
  info ("Created new configuration file " ++ path)

def run : Command → ExceptT Failure m Unit
  | listOperators config => do runListOperators (← loadConfig config)
  | buildCatalog config output units => do runBuildCatalog (← loadConfig config) output units
  | listMutants config report units => do runListMutants (← loadConfig config) report units
  | mutate config index output unit => do runMutate (← loadConfig config) index output unit
  | newConfig path => runNewConfig (path.getD configFile)

end BytecodeMutation.Command
