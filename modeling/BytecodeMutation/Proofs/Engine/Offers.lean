import BytecodeMutation.Engine.Traversal
import BytecodeMutation.Proofs.Refusal

/-! What the operators offer for a method, apart from the code that becomes of it. A pass registers
its offers in the order of the instructions, each at the source line that holds there, and is
refused at the first identifier that is taken. -/

namespace BytecodeMutation

/-- A replacement that an operator has for one instruction of a method. -/
structure Offer where
  operator : Operator
  index : Nat
  line : Option UInt32
  old : Instruction
  replacement : Replacement

/-- The source line from an instruction on. -/
def lineFrom (line : Option UInt32) : Instruction → Option UInt32
  | .line n => some n
  | _ => line

def lastLine (line : Option UInt32) (is : List Instruction) : Option UInt32 := is.foldl lineFrom line

/-- The offers for a stretch of code that begins at an index. -/
def Operator.offersFrom (o : Operator) (context : InstructionContext) :
    Nat → Option UInt32 → List Instruction → List Offer
  | _, _, [] => []
  | index, line, i :: is =>
    ((o.candidate? context i).toList.map fun r => ⟨o, index, lineFrom line i, i, r⟩) ++
      o.offersFrom context (index + 1) (lineFrom line i) is

/-- The offers for a whole method. -/
def Operator.offers (o : Operator) (context : InstructionContext) : List Offer :=
  o.offersFrom context 0 none context.method.instructions

theorem Operator.offersFrom_append (o : Operator) (context : InstructionContext) (index : Nat)
    (line : Option UInt32) (is js : List Instruction) :
    o.offersFrom context index line (is ++ js) = o.offersFrom context index line is ++
      o.offersFrom context (index + is.length) (lastLine line is) js := by
  induction is generalizing index line with
  | nil => rfl
  | cons i is ih =>
    have hn : index + 1 + is.length = index + (i :: is).length := by simp; omega
    simp only [List.cons_append, offersFrom, ih, List.append_assoc, hn]
    rfl

/-- An offer stands for one instruction and the candidate that its operator has for it. -/
theorem Operator.mem_offersFrom {o : Operator} {context : InstructionContext} {index : Nat}
    {line : Option UInt32} {is : List Instruction} {f : Offer} :
    f ∈ o.offersFrom context index line is ↔
      f.operator = o ∧ o.candidate? context f.old = some f.replacement ∧
        ∃ before after, is = before ++ f.old :: after ∧ f.index = index + before.length ∧
          f.line = lastLine line (before ++ [f.old]) := by
  induction is generalizing index line with
  | nil => simp [offersFrom]
  | cons i is ih =>
    simp only [offersFrom, List.mem_append, ih, List.mem_map, Option.mem_toList]
    constructor
    · rintro (⟨r, hr, rfl⟩ | ⟨ho, hr, before, after, rfl, hindex, hline⟩)
      · exact ⟨rfl, hr, [], is, rfl, rfl, rfl⟩
      · exact ⟨ho, hr, i :: before, after, rfl, by simp; omega, hline⟩
    · rintro ⟨ho, hr, before, after, his, hindex, hline⟩
      cases before with
      | nil =>
        obtain ⟨rfl, rfl⟩ := List.cons.inj his
        obtain ⟨o', index', line', old, r⟩ := f
        obtain rfl : o' = o := ho
        obtain rfl : index' = index := hindex
        obtain rfl : line' = lineFrom line old := hline
        exact .inl ⟨r, hr, rfl⟩
      | cons j before =>
        obtain ⟨rfl, rfl⟩ := List.cons.inj his
        exact .inr ⟨ho, hr, before, after, rfl, by simp at hindex; omega, hline⟩

/-! ### Registration -/

namespace Offer

def identifier (f : Offer) (key : MethodKey) : MutationIdentifier :=
  ⟨key, f.operator.name, f.index⟩

/-- The site of an offer that is registered after `ordinal` others. -/
def site (f : Offer) (key : MethodKey) (file : Option String) (ordinal : Nat) : MutationSite :=
  ⟨ordinal, f.identifier key, f.operator.category, f.replacement.description, ⟨file, f.line⟩⟩

/-- The sites of offers that are registered after `n` others. -/
def sitesFrom (key : MethodKey) (file : Option String) : Nat → List Offer → List MutationSite
  | _, [] => []
  | n, f :: fs => f.site key file n :: sitesFrom key file (n + 1) fs

theorem length_sitesFrom (key : MethodKey) (file : Option String) (n : Nat)
    (fs : List Offer) : (sitesFrom key file n fs).length = fs.length := by
  induction fs generalizing n with
  | nil => rfl
  | cons f fs ih => rw [sitesFrom, List.length_cons, List.length_cons, ih]

theorem sitesFrom_append (key : MethodKey) (file : Option String) (n : Nat)
    (fs gs : List Offer) : sitesFrom key file n (fs ++ gs) =
      sitesFrom key file n fs ++ sitesFrom key file (n + fs.length) gs := by
  induction fs generalizing n with
  | nil => rfl
  | cons f fs ih =>
    rw [List.cons_append, sitesFrom, sitesFrom, ih, List.cons_append, List.length_cons]
    congr 3
    omega

theorem map_id_sitesFrom (key : MethodKey) (file : Option String) (n : Nat)
    (fs : List Offer) :
    (sitesFrom key file n fs).map MutationSite.id = fs.map fun f => f.identifier key := by
  induction fs generalizing n with
  | nil => rfl
  | cons f fs ih =>
    rw [sitesFrom, List.map_cons, List.map_cons, ih]
    rfl

end Offer

namespace SiteRegistry

/-- Registers an offer at its line. -/
def enter (r : SiteRegistry) (f : Offer) : Except BodyError SiteRegistry :=
  (r.setLine f.line).register f.operator.name f.operator.category f.index f.replacement.description

def enterAll (r : SiteRegistry) (fs : List Offer) : Except BodyError SiteRegistry :=
  fs.foldlM enter r

/-- The registry with an offer whose identifier is free. -/
def record (r : SiteRegistry) (f : Offer) : SiteRegistry :=
  { r with
    line := f.line
    sites := r.sites ++ [f.site r.method r.sourceFile r.sites.length]
    registered := r.registered.insert (f.identifier r.method) }

def recordAll (r : SiteRegistry) (fs : List Offer) : SiteRegistry := fs.foldl record r

/-- What registration leaves besides the line. -/
def withSites (r : SiteRegistry) (fs : List Offer) : SiteRegistry :=
  { r with
    sites := r.sites ++ Offer.sitesFrom r.method r.sourceFile r.sites.length fs
    registered := fs.foldl (fun ids f => ids.insert (f.identifier r.method)) r.registered }

theorem enter_eq (r : SiteRegistry) (f : Offer) :
    r.enter f = if r.isRegistered (f.identifier r.method)
      then .error (.identifierCollision (f.identifier r.method).text) else .ok (r.record f) := rfl

@[simp] theorem enterAll_nil (r : SiteRegistry) : r.enterAll [] = .ok r := rfl

@[simp] theorem enterAll_cons (r : SiteRegistry) (f : Offer) (fs : List Offer) :
    r.enterAll (f :: fs) = r.enter f >>= fun r => r.enterAll fs := List.foldlM_cons

theorem enterAll_append (r : SiteRegistry) (fs gs : List Offer) :
    r.enterAll (fs ++ gs) = r.enterAll fs >>= fun r => r.enterAll gs := List.foldlM_append

end SiteRegistry

end BytecodeMutation
