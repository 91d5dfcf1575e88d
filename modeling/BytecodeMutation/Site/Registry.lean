import BytecodeMutation.Site.Basic

/-! The registry of the sites of one method during a traversal. Every candidate is registered under
its identifier, once; of all of them at most one, the target, is to be applied. The identifiers in
use are kept as a set beside the list of sites. -/

namespace BytecodeMutation

structure SiteRegistry where
  method : MethodKey
  sourceFile : Option String
  target : Option MutationIdentifier
  /-- The source line of the instructions that are being visited. -/
  line : Option UInt32
  sites : List MutationSite
  /-- The set of the identifiers of the sites. -/
  registered : List MutationIdentifier
  applied : Option MutationIdentifier
  deriving DecidableEq, Inhabited

namespace SiteRegistry

def start (method : MethodKey) (sourceFile : Option String) (target : Option MutationIdentifier) :
    SiteRegistry :=
  ⟨method, sourceFile, target, none, [], [], none⟩

def setLine (r : SiteRegistry) (line : Option UInt32) : SiteRegistry := { r with line }

def isRegistered (r : SiteRegistry) (id : MutationIdentifier) : Bool :=
  r.registered.contains id

/-- The identifier of a candidate at an instruction of the method. -/
def identify (r : SiteRegistry) (operator : String) (index : Nat) : MutationIdentifier :=
  ⟨r.method, operator, index⟩

/-- Records a candidate at the current line. -/
def register (r : SiteRegistry) (operator : String) (category : Category) (index : Nat)
    (description : String) : Except BodyError SiteRegistry :=
  let id := r.identify operator index
  if r.isRegistered id then .error (.identifierCollision id.text)
  else .ok { r with
    sites := r.sites ++ [⟨r.sites.length, id, category, description, r.sourceFile, r.line⟩]
    registered := r.registered.insert id }

/-- Whether the candidate is the target, and nothing was applied yet. -/
def shouldMutate (r : SiteRegistry) (id : MutationIdentifier) : Bool :=
  r.applied.isNone && r.target == some id

def markApplied (r : SiteRegistry) (id : MutationIdentifier) : SiteRegistry :=
  { r with applied := some id }

end SiteRegistry

end BytecodeMutation
