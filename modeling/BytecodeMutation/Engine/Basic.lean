import BytecodeMutation.Engine.Traversal

/-! The engine finds the mutation sites of class units and produces the mutant of one site. -/

namespace BytecodeMutation

structure MutationEngine where
  policy : MutationPolicy
  operators : List Operator
  catalog : Option SignatureCatalog

namespace MutationEngine

/-- Traverses a method of a unit; a refusal is reported with the method. -/
def traverse (e : MutationEngine) (u : ClassUnit) (m : MethodBody)
    (target : Option MutationIdentifier) : Except Error Traversal :=
  let key := MethodKey.of u.name m
  match Traversal.run e.operators ⟨m, e.catalog⟩ (.start key u.sourceFile target) with
  | .ok t => .ok t
  | .error cause => .error (.aborted key.text cause)

/-- The methods that the policy admits, in the order of units and methods. -/
def admittedMethods (e : MutationEngine) (units : List ClassUnit) :
    List (ClassUnit × MethodBody) :=
  (units.filter fun u => e.policy.admitsClass u.name).flatMap fun u =>
    (u.methods.filter fun m => e.policy.admitsMethod m.name).map fun m => (u, m)

/-- All sites of the admitted methods, method by method. -/
def discover (e : MutationEngine) (units : List ClassUnit) : Except Error (List MutationSite) := do
  let perMethod ← (e.admittedMethods units).mapM fun (u, m) =>
    (e.traverse u m none).map Traversal.sites
  return perMethod.flatten

/-- The mutant that an identifier names. -/
def mutate (e : MutationEngine) (u : ClassUnit) (id : MutationIdentifier) :
    Except Error ClassUnit := do
  if u.name ≠ id.method.owner then throw (.methodNotFound id.method.text)
  let some descriptor := MethodDescriptor.ofText? id.method.descriptor
    | throw (.invalidDescriptor id.method.descriptor)
  match u.findMethod? id.method.name descriptor with
  | none => throw (.methodNotFound id.method.text)
  | some k =>
    match u.methods[k]? with
    | none => throw (.methodNotFound id.method.text)
    | some m =>
      match (← e.traverse u m (some id)).mutated with
      | some body => return u.setMethod k body
      | none => throw (.mutationNotFound id.text)

/-- The mutant of the site at position `n` of the list, in the first unit of its owner. -/
def mutateAt (e : MutationEngine) (units : List ClassUnit) (sites : List MutationSite) (n : Nat) :
    Except Error (MutationSite × ClassUnit) :=
  match sites[n]? with
  | none => throw (.mutationNotFound ("#" ++ Decimal.natText n))
  | some site =>
    match units.find? fun u => u.name == site.id.method.owner with
    | none => throw (.methodNotFound site.id.method.text)
    | some u => do return (site, ← e.mutate u site.id)

/-- The `n`-th site of all and its mutant. -/
def mutateNth (e : MutationEngine) (units : List ClassUnit) (n : Nat) :
    Except Error (MutationSite × ClassUnit) := do
  e.mutateAt units (← e.discover units) n

end MutationEngine

/-! ### Logged outcomes -/

/-- A result with the records that were logged on the way to it. -/
structure Logged (α : Type) where
  result : Except Error α
  log : Log

namespace Logged

/-- A result of which only a refusal is logged. -/
def ofResult {α : Type} (result : Except Error α) : Logged α :=
  ⟨result, match result with
    | .ok _ => []
    | .error e => e.log⟩

end Logged

namespace MutationEngine

def discoveryLog (sites : List MutationSite) : Log :=
  [⟨.info, "Generated " ++ Decimal.natText sites.length ++ " mutations"⟩]

/-- Discovery, which logs the number of sites. -/
def discoverLogged (e : MutationEngine) (units : List ClassUnit) : Logged (List MutationSite) :=
  match e.discover units with
  | .ok sites => ⟨.ok sites, discoveryLog sites⟩
  | .error err => .ofResult (.error err)

/-- The choice of a mutant by its number, which logs the discovery before it. -/
def mutateNthLogged (e : MutationEngine) (units : List ClassUnit) (n : Nat) :
    Logged (MutationSite × ClassUnit) :=
  match e.discover units with
  | .ok sites =>
    let outcome := Logged.ofResult (e.mutateAt units sites n)
    ⟨outcome.result, discoveryLog sites ++ outcome.log⟩
  | .error err => .ofResult (.error err)

end MutationEngine

end BytecodeMutation
