import BytecodeMutation.Report.Keyed
import Mathlib.Algebra.Ring.Nat
import Mathlib.Data.List.Induction

/-! Lists of pairs in ascending order of their keys. An update changes the value under one key and
keeps the order, so a list that is built by updates can be read key by key; built by counting, it
holds every key that occurs with the number of its occurrences. -/

namespace BytecodeMutation.Keyed

variable {α β γ : Type} [DecidableEq α] {lt : α → α → Bool}

/-- A strict linear order, given as a test. -/
structure IsOrder (lt : α → α → Bool) : Prop where
  irrefl : ∀ a, ¬ lt a a
  trans : ∀ a b c, lt a b → lt b c → lt a c
  connected : ∀ a b, ¬ lt a b → a ≠ b → lt b a

theorem isOrder_nat : IsOrder fun m n : Nat => decide (m < n) where
  irrefl n := by simp
  trans k m n hkm hmn := by
    simp only [decide_eq_true_eq] at *
    omega
  connected m n hmn hne := by
    simp only [decide_eq_true_eq] at *
    omega

theorem isOrder_string : IsOrder fun s t : String => decide (s < t) where
  irrefl s := by simp
  trans s t u hst htu := by
    simp only [decide_eq_true_eq] at *
    exact Std.lt_trans hst htu
  connected s t hst hne := by
    simp only [decide_eq_true_eq] at *
    exact Std.lt_of_le_of_ne (Std.not_lt.1 hst) hne.symm

/-- Each key is there once, and the keys ascend. -/
def Ascending (lt : α → α → Bool) (entries : List (α × β)) : Prop :=
  entries.Pairwise fun p q => lt p.1 q.1

omit [DecidableEq α] in
theorem ascending_nil : Ascending lt ([] : List (α × β)) := .nil

theorem mem_update {key : α} {f : Option β → β} {entries : List (α × β)} {p : α × β}
    (h : p ∈ update lt key f entries) : p.1 = key ∨ p ∈ entries := by
  induction entries with
  | nil =>
    obtain rfl := List.mem_singleton.1 h
    exact .inl rfl
  | cons q entries ih =>
    obtain ⟨k, v⟩ := q
    rw [update] at h
    split at h
    · rcases List.mem_cons.1 h with rfl | h
      · exact .inl rfl
      · exact .inr h
    · split at h
      · rename_i hkey
        rcases List.mem_cons.1 h with rfl | h
        · exact .inl hkey.symm
        · exact .inr (List.mem_cons_of_mem _ h)
      · rcases List.mem_cons.1 h with rfl | h
        · exact .inr List.mem_cons_self
        · exact (ih h).imp id (List.mem_cons_of_mem _)

theorem ascending_update (hlt : IsOrder lt) {key : α} {f : Option β → β} {entries : List (α × β)}
    (h : Ascending lt entries) : Ascending lt (update lt key f entries) := by
  induction entries with
  | nil => exact List.pairwise_singleton _ _
  | cons q entries ih =>
    obtain ⟨k, v⟩ := q
    obtain ⟨hk, hentries⟩ := List.pairwise_cons.1 h
    rw [update]
    split
    · rename_i hbefore
      refine .cons (fun p hp => ?_) h
      rcases List.mem_cons.1 hp with rfl | hp
      · exact hbefore
      · exact hlt.trans _ _ _ hbefore (hk p hp)
    · rename_i hbefore
      split
      · exact .cons hk hentries
      · rename_i hkey
        refine .cons (fun p hp => ?_) (ih hentries)
        rcases mem_update hp with hp | hp
        · rw [hp]
          exact hlt.connected key k hbefore hkey
        · exact hk p hp

/-! ### Reading -/

theorem lookup_cons_eq (k j : α) (v : β) (entries : List (α × β)) :
    ((j, v) :: entries).lookup k = if k = j then some v else entries.lookup k := by
  by_cases hk : k = j
  · rw [hk, List.lookup_cons_self, if_pos rfl]
  · rw [List.lookup_cons, beq_false_of_ne hk, if_neg hk]

theorem lookup_eq_none {key : α} {entries : List (α × β)} (h : ∀ p ∈ entries, p.1 ≠ key) :
    entries.lookup key = none := by
  induction entries with
  | nil => rfl
  | cons q entries ih =>
    rw [lookup_cons_eq, if_neg (h q List.mem_cons_self).symm]
    exact ih fun p hp => h p (List.mem_cons_of_mem q hp)

omit [DecidableEq α] in
theorem IsOrder.ne_of_lt (hlt : IsOrder lt) {a b : α} (h : lt a b) : b ≠ a :=
  fun heq => hlt.irrefl a (heq ▸ h)

theorem lookup_update (hlt : IsOrder lt) {key : α} {f : Option β → β} {entries : List (α × β)}
    (h : Ascending lt entries) (k : α) : (update lt key f entries).lookup k =
      if k = key then some (f (entries.lookup key)) else entries.lookup k := by
  induction entries with
  | nil =>
    rw [update, lookup_cons_eq]
    rfl
  | cons q entries ih =>
    obtain ⟨j, v⟩ := q
    obtain ⟨hj, hentries⟩ := List.pairwise_cons.1 h
    rw [update]
    split
    · rename_i hbefore
      have hnone : ((j, v) :: entries).lookup key = none := by
        refine lookup_eq_none fun p hp => ?_
        rcases List.mem_cons.1 hp with rfl | hp
        · exact hlt.ne_of_lt hbefore
        · exact hlt.ne_of_lt (hlt.trans _ _ _ hbefore (hj p hp))
      rw [lookup_cons_eq, hnone]
    · split
      · rename_i hkey
        subst hkey
        simp only [lookup_cons_eq, if_true]
        split <;> rfl
      · rename_i hkey
        rw [lookup_cons_eq, lookup_cons_eq, lookup_cons_eq, ih hentries, if_neg hkey]
        by_cases hk : k = j
        · rw [if_pos hk, if_neg (hk ▸ Ne.symm hkey), if_pos hk]
        · rw [if_neg hk, if_neg hk]

theorem mem_of_lookup_eq_some {key : α} {v : β} {entries : List (α × β)}
    (h : entries.lookup key = some v) : (key, v) ∈ entries := by
  obtain ⟨before, after, rfl, -⟩ := List.lookup_eq_some_iff.1 h
  exact List.mem_append_right before List.mem_cons_self

theorem Ascending.lookup_eq_some (hlt : IsOrder lt) {entries : List (α × β)}
    (h : Ascending lt entries) {p : α × β} (hp : p ∈ entries) :
    entries.lookup p.1 = some p.2 := by
  induction entries with
  | nil => cases hp
  | cons q entries ih =>
    obtain ⟨hq, hentries⟩ := List.pairwise_cons.1 h
    rw [lookup_cons_eq]
    rcases List.mem_cons.1 hp with rfl | hp
    · rw [if_pos rfl]
    · rw [if_neg (hlt.ne_of_lt (hq p hp)), ih hentries hp]

/-- Of what is read off all entries, that of a single key is all that is left if every other entry
gives nothing. -/
theorem flatMap_eq_lookup (hlt : IsOrder lt) {entries : List (α × β)} (h : Ascending lt entries)
    (key : α) {g : α × β → List γ} (hg : ∀ p ∈ entries, p.1 ≠ key → g p = []) :
    entries.flatMap g = (entries.lookup key).elim [] fun v => g (key, v) := by
  induction entries with
  | nil => rfl
  | cons q entries ih =>
    obtain ⟨k, v⟩ := q
    obtain ⟨hq, hentries⟩ := List.pairwise_cons.1 h
    rw [List.flatMap_cons, lookup_cons_eq]
    by_cases hkey : key = k
    · subst hkey
      have hrest : entries.flatMap g = [] := List.flatMap_eq_nil_iff.2 fun p hp =>
        hg p (List.mem_cons_of_mem _ hp) (hlt.ne_of_lt (hq p hp))
      rw [if_pos rfl, hrest, List.append_nil]
      rfl
    · rw [hg (k, v) List.mem_cons_self (Ne.symm hkey), List.nil_append, if_neg hkey]
      exact ih hentries fun p hp => hg p (List.mem_cons_of_mem _ hp)

/-! ### Counting -/

/-- Counting one more key adds one to the sum. -/
theorem sum_update_succ (key : α) (counts : List (α × Nat)) :
    ((update lt key (fun n => n.getD 0 + 1) counts).map Prod.snd).sum =
      (counts.map Prod.snd).sum + 1 := by
  induction counts with
  | nil => rfl
  | cons q counts ih =>
    obtain ⟨k, n⟩ := q
    rw [update]
    split
    · simp [Nat.add_comm]
    · split
      · simp only [List.map_cons, List.sum_cons, Option.getD_some]
        omega
      · simp only [List.map_cons, List.sum_cons, ih]
        omega

theorem tally_concat (texts : List String) (t : String) : tally (texts ++ [t]) =
    update (fun a b => decide (a < b)) t (fun n => n.getD 0 + 1) (tally texts) := by
  rw [tally, List.foldl_append]
  rfl

theorem ascending_tally (texts : List String) :
    Ascending (fun a b => decide (a < b)) (tally texts) := by
  induction texts using List.reverseRecOn with
  | nil => exact ascending_nil
  | append_singleton texts t ih =>
    rw [tally_concat]
    exact ascending_update isOrder_string ih

theorem lookup_tally (texts : List String) (t : String) :
    (tally texts).lookup t = if t ∈ texts then some (texts.count t) else none := by
  induction texts using List.reverseRecOn with
  | nil => rfl
  | append_singleton texts u ih =>
    rw [tally_concat, lookup_update isOrder_string (ascending_tally texts)]
    by_cases h : t = u
    · subst h
      rw [if_pos rfl, ih]
      by_cases hmem : t ∈ texts
      · simp [hmem]
      · simp [hmem, List.count_eq_zero_of_not_mem hmem]
    · rw [if_neg h, ih]
      simp [h, List.count_append, Ne.symm h]

theorem sum_tally (texts : List String) : ((tally texts).map Prod.snd).sum = texts.length := by
  induction texts using List.reverseRecOn with
  | nil => rfl
  | append_singleton texts t ih =>
    rw [tally_concat, sum_update_succ, ih, List.length_append, List.length_singleton]

/-- Each text that occurs is counted once. -/
theorem nodup_keys_tally (texts : List String) : ((tally texts).map Prod.fst).Nodup := by
  refine List.pairwise_map.2 ((ascending_tally texts).imp fun {p q} hlt => ?_)
  exact (isOrder_string.ne_of_lt hlt).symm

theorem mem_tally_iff {texts : List String} {t : String} {n : Nat} :
    (t, n) ∈ tally texts ↔ t ∈ texts ∧ n = texts.count t := by
  constructor
  · intro h
    have hlookup := (ascending_tally texts).lookup_eq_some isOrder_string h
    rw [lookup_tally] at hlookup
    split at hlookup
    · rename_i hmem
      exact ⟨hmem, (Option.some.inj hlookup).symm⟩
    · cases hlookup
  · rintro ⟨hmem, rfl⟩
    refine mem_of_lookup_eq_some ?_
    rw [lookup_tally, if_pos hmem]

end BytecodeMutation.Keyed
