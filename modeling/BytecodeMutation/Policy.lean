/-! Which classes and methods are mutated. -/

namespace BytecodeMutation

structure MutationPolicy where
  admitsClass : String → Bool
  admitsMethod : String → Bool

namespace MutationPolicy

def admitAll : MutationPolicy := ⟨fun _ => true, fun _ => true⟩

end MutationPolicy

/-- Whether an allow list admits a name: an empty list admits everything, any other list what one of
its entries accepts. -/
def admittedBy {α : Type} (accepts : α → String → Bool) (entries : List α) (name : String) : Bool :=
  entries.isEmpty || entries.any fun entry => accepts entry name

/-- The policy of two allow lists, for classes and for methods. -/
def MutationPolicy.ofLists {α : Type} (accepts : α → String → Bool) (classes methods : List α) :
    MutationPolicy :=
  ⟨admittedBy accepts classes, admittedBy accepts methods⟩

end BytecodeMutation
