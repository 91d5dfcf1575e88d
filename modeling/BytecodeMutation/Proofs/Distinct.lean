import Mathlib.Data.Finset.Card
import Mathlib.Data.List.Induction

/-! Lists without their repetitions. -/

namespace BytecodeMutation

variable {α : Type} [DecidableEq α]

theorem eraseDups_concat (xs : List α) (x : α) :
    (xs ++ [x]).eraseDups = if x ∈ xs then xs.eraseDups else xs.eraseDups ++ [x] := by
  rw [List.eraseDups_append]
  split
  · rename_i h
    simp [List.removeAll, h]
  · rename_i h
    rw [show [x].removeAll xs = [x] by simp [List.removeAll, h]]
    rfl

theorem nodup_eraseDups (xs : List α) : xs.eraseDups.Nodup := by
  induction xs using List.reverseRecOn with
  | nil => exact List.nodup_nil
  | append_singleton xs x ih =>
    rw [eraseDups_concat]
    split
    · exact ih
    · rename_i h
      refine List.nodup_append.2 ⟨ih, by simp, fun a ha b hb => ?_⟩
      rintro rfl
      exact h (List.mem_eraseDups.1 (List.mem_singleton.1 hb ▸ ha))

/-- As many elements are left as there are different ones. -/
theorem length_eraseDups (xs : List α) : xs.eraseDups.length = xs.toFinset.card := by
  have hsame : xs.eraseDups.toFinset = xs.toFinset := by
    ext x
    rw [List.mem_toFinset, List.mem_toFinset, List.mem_eraseDups]
  rw [← hsame, List.toFinset_card_of_nodup (nodup_eraseDups xs)]

end BytecodeMutation
