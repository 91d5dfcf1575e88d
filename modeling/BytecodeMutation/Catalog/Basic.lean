import BytecodeMutation.ClassUnit.Basic
import BytecodeMutation.Decimal.Digits
import BytecodeMutation.Policy

/-! The catalog of method signatures, from which calls are redirected. A catalog is built in one go
and belongs to a generation; its records keep the order in which they were offered, each once, and
none is an initializer. What was taken already is kept as a set beside the list of records. -/

namespace BytecodeMutation

/-- Which of its parts a redirected call keeps, besides the owner and the return type. -/
inductive CallMode where
  /-- Equal parameters and another name. -/
  | sameParameters
  /-- The same name and other parameters. -/
  | sameName
  deriving DecidableEq, Inhabited

structure SignatureRecord where
  owner : String
  name : String
  descriptor : MethodDescriptor
  isStatic : Bool
  deriving DecidableEq, Inhabited

namespace SignatureRecord

def isInitializer (r : SignatureRecord) : Bool := isInitializerName r.name

/-- Whether a call can be redirected to the recorded method. -/
def fits (r : SignatureRecord) (call : MethodRef) (mode : CallMode) : Bool :=
  r.owner == call.owner && r.isStatic != call.kind.hasReceiver &&
    r.descriptor.ret == call.descriptor.ret &&
    match mode with
    | .sameParameters => r.descriptor.params == call.descriptor.params && r.name != call.name
    | .sameName => r.name == call.name && r.descriptor.params != call.descriptor.params

end SignatureRecord

structure SignatureCatalog where
  generation : UInt64
  records : List SignatureRecord
  deriving DecidableEq, Inhabited

namespace SignatureCatalog

def empty : SignatureCatalog := ⟨0, []⟩

/-- The records that a call can be redirected to, in the order of the catalog. -/
def compatible (c : SignatureCatalog) (call : MethodRef) (mode : CallMode) :
    List SignatureRecord :=
  c.records.filter fun r => r.fits call mode

def firstCompatible? (c : SignatureCatalog) (call : MethodRef) (mode : CallMode) :
    Option SignatureRecord :=
  c.records.find? fun r => r.fits call mode

/-- The record of a finished build. -/
def buildLog (c : SignatureCatalog) : Log :=
  [⟨.info, "Signature catalog generation " ++ Decimal.natText c.generation.toNat ++ " holds " ++
    Decimal.natText c.records.length ++ " signatures"⟩]

end SignatureCatalog

/-- A catalog under construction. -/
structure CatalogBuilder where
  generation : UInt64
  records : List SignatureRecord
  /-- The set of the records, against which the next one is compared. -/
  seen : List SignatureRecord
  deriving Inhabited

namespace CatalogBuilder

/-- A fresh generation; nothing of an earlier one is kept. -/
def start (generation : UInt64) : CatalogBuilder := ⟨generation, [], []⟩

/-- Whether a record would be added: initializers and repetitions are not. -/
def accepts (b : CatalogBuilder) (r : SignatureRecord) : Bool :=
  !r.isInitializer && !b.seen.contains r

def add (b : CatalogBuilder) (r : SignatureRecord) : CatalogBuilder :=
  if b.accepts r then { b with records := b.records ++ [r], seen := b.seen.insert r } else b

def addAll (b : CatalogBuilder) (rs : List SignatureRecord) : CatalogBuilder := rs.foldl add b

end CatalogBuilder

/-- One record for every method, in the order of declaration. -/
def ClassUnit.signatures (u : ClassUnit) : List SignatureRecord :=
  u.methods.map fun m => ⟨u.name, m.name, m.descriptor, m.isStatic⟩

namespace CatalogBuilder

/-- Offers every method of a unit. -/
def scan (b : CatalogBuilder) (u : ClassUnit) : CatalogBuilder := b.addAll u.signatures

/-- Offers the methods of a unit if the policy admits its class. -/
def scanAdmitted (b : CatalogBuilder) (policy : MutationPolicy) (u : ClassUnit) : CatalogBuilder :=
  if policy.admitsClass u.name then b.scan u else b

/-- How many records `later` holds more than `b`. -/
def addedIn (b later : CatalogBuilder) : Nat := later.records.length - b.records.length

def build (b : CatalogBuilder) : SignatureCatalog := ⟨b.generation, b.records⟩

end CatalogBuilder

end BytecodeMutation
