import BytecodeMutation.Decimal.Digits
import BytecodeMutation.Stack.Effect

/-! When a sequence can stand in for another: the code around it must see the same change of depth,
and no deeper access than before. -/

namespace BytecodeMutation

open Decimal

def SequenceEffect.text (e : SequenceEffect) : String :=
  "net " ++ intText e.net ++ " requiring " ++ natText e.required

/-- The effect of `replacement` if it can stand in for `old`; the operator names the origin of
a mismatch. -/
def verifyReplacement (operator : String) (old replacement : List Instruction) :
    Except BodyError SequenceEffect :=
  let before := SequenceEffect.of old
  let after := SequenceEffect.of replacement
  if before.net = after.net ∧ after.required ≤ before.required then .ok after
  else .error (.stackWidthMismatch operator before.text after.text)

/-- The slots by which the peak of `replacement` exceeds that of `old`, in 16 bits. -/
def additionalStack (old replacement : List Instruction) : Nat :=
  ((SequenceEffect.of replacement).peak - (SequenceEffect.of old).peak).toNat % 65536

end BytecodeMutation
