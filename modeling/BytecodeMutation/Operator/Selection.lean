import BytecodeMutation.Operator.Basic

/-! The choice of operators by name. A name stands for one operator or for a group, which is every
operator whose name begins in a certain way; the chosen operators keep the order of traversal. -/

namespace BytecodeMutation

/-- A group and the beginning that the names of its operators share. -/
structure OperatorGroup where
  name : String
  beginning : String
  deriving DecidableEq, Inhabited

namespace OperatorGroup

def all : List OperatorGroup :=
  [⟨"all", ""⟩, ⟨"aor", "aor_"⟩, ⟨"aor_i", "aor_i"⟩, ⟨"aor_l", "aor_l"⟩, ⟨"aor_f", "aor_f"⟩,
    ⟨"aor_d", "aor_d"⟩, ⟨"obbn", "obbn_"⟩, ⟨"ror", "ror_"⟩, ⟨"groovy", "groovy_"⟩,
    ⟨"aod", "aod_"⟩, ⟨"crcr", "crcr_"⟩, ⟨"uoi", "uoi_"⟩, ⟨"abs", "abs_"⟩, ⟨"call", "call_"⟩]

def holds (g : OperatorGroup) (o : Operator) : Bool :=
  g.beginning.toList.isPrefixOf o.name.toList

end OperatorGroup

namespace Operator

/-- Whether a name is that of an operator or of a group. -/
def isKnown (name : String) : Bool :=
  all.any (·.name == name) || OperatorGroup.all.any (·.name == name)

/-- Whether a name stands for the operator or for a group that it belongs to. -/
def isSelectedBy (o : Operator) (name : String) : Bool :=
  name == o.name || OperatorGroup.all.any fun g => g.name == name && g.holds o

/-- The operators that the names stand for; the first unknown name is refused. -/
def select (names : List String) : Except Error (List Operator) :=
  match names.find? fun name => !isKnown name with
  | some name => .error (.unknownOperator name)
  | none => .ok (all.filter fun o => names.any o.isSelectedBy)

/-- Whether an operator of that name is among the chosen ones. -/
def isEnabled (chosen : List Operator) (name : String) : Bool := chosen.any (·.name == name)

end Operator

end BytecodeMutation
