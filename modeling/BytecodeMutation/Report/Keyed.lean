/-! Lists of pairs in ascending order of their keys, each key once. -/

namespace BytecodeMutation.Keyed

variable {α β : Type}

/-- Changes the value under a key, or starts one at the place of the key. -/
def update [DecidableEq α] (lt : α → α → Bool) (key : α) (f : Option β → β) :
    List (α × β) → List (α × β)
  | [] => [(key, f none)]
  | (k, v) :: rest =>
    if lt key k then (key, f none) :: (k, v) :: rest
    else if key = k then (k, f (some v)) :: rest
    else (k, v) :: update lt key f rest

/-- How often every text occurs, in ascending order of the texts. -/
def tally (texts : List String) : List (String × Nat) :=
  texts.foldl (fun counts t =>
    update (fun a b => decide (a < b)) t (fun n => n.getD 0 + 1) counts) []

end BytecodeMutation.Keyed
