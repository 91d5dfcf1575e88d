import BytecodeMutation.Catalog.File
import BytecodeMutation.Config.Basic
import BytecodeMutation.Engine.Basic
import BytecodeMutation.Operator.Selection
import BytecodeMutation.Policy.Patterns

/-! The engine that a configuration describes. -/

namespace BytecodeMutation

/-- The policy of the allow lists; an absent list admits everything. -/
def Config.policy (config : Config) : Except Error MutationPolicy :=
  MutationPolicy.ofPatterns (config.allowedClasses.getD []) (config.allowedMethods.getD [])

namespace MutationEngine

variable {m : Type → Type} [Monad m] [Workspace m]

/-- The engine with a given catalog. -/
def ofCatalog (config : Config) (catalog : Option SignatureCatalog) :
    Except Error MutationEngine := do
  return ⟨← config.policy, ← Operator.select config.enabled, catalog⟩

/-- The engine with the catalog that the configuration names, if it names one. -/
def ofConfig (config : Config) : ExceptT Error m MutationEngine := do
  let catalog ← match config.catalogPath with
    | some path => pure (some (← SignatureCatalog.loadOrEmpty path))
    | none => pure none
  ExceptT.mk (pure (ofCatalog config catalog))

end MutationEngine

end BytecodeMutation
