import BytecodeMutation.Proofs.Report.Keyed
import BytecodeMutation.Report.Listing

/-! The order of the listing. The sites are listed by file and line, and those of one line in the
order in which they were discovered: the listing is the stable sort of the discovered sites. -/

namespace BytecodeMutation

/-! ### Sorted lists -/

section Sorted

variable {α κ : Type} [DecidableEq κ] {key : α → κ} {le : α → α → Prop}

/-- Sorted lists are the same if they have the same elements of every key in the same order. -/
theorem eq_of_filter_eq (hantisymm : ∀ a b, le a b → le b a → key a = key b) {xs ys : List α}
    (hxs : xs.Pairwise le) (hys : ys.Pairwise le)
    (h : ∀ k, xs.filter (fun a => key a = k) = ys.filter fun a => key a = k) : xs = ys := by
  induction xs generalizing ys with
  | nil =>
    cases ys with
    | nil => rfl
    | cons y ys => simpa using h (key y)
  | cons x xs ih =>
    cases ys with
    | nil => simpa using h (key x)
    | cons y ys =>
      obtain ⟨hx, hxs⟩ := List.pairwise_cons.1 hxs
      obtain ⟨hy, hys'⟩ := List.pairwise_cons.1 hys
      have hmem : ∀ a, a ∈ x :: xs ↔ a ∈ y :: ys := by
        intro a
        have ha := congrArg (a ∈ ·) (h (key a))
        simpa only [List.mem_filter, decide_true, and_true, eq_iff_iff] using ha
      have hkey : key x = key y := by
        rcases List.mem_cons.1 ((hmem x).1 List.mem_cons_self) with heq | hxy
        · rw [heq]
        rcases List.mem_cons.1 ((hmem y).2 List.mem_cons_self) with heq | hyx
        · rw [heq]
        · exact hantisymm x y (hx y hyx) (hy x hxy)
      have hhead := h (key x)
      rw [List.filter_cons_of_pos (by simp), List.filter_cons_of_pos (by simp [hkey])] at hhead
      obtain rfl := (List.cons.inj hhead).1
      refine congrArg (x :: ·) (ih hxs hys' fun k => ?_)
      by_cases hk : key x = k
      · subst hk
        exact (List.cons.inj hhead).2
      · simpa [List.filter_cons, hk] using h k

/-- Sorting keeps elements in order that are not told apart. -/
theorem filter_mergeSort {le : α → α → Bool} (htrans : ∀ a b c, le a b → le b c → le a c)
    (htotal : ∀ a b, le a b || le b a) {p : α → Bool} (hp : ∀ a b, p a → p b → le a b)
    (xs : List α) : (xs.mergeSort le).filter p = xs.filter p := by
  have hsorted : (xs.filter p).Pairwise fun a b => le a b = true :=
    List.pairwise_of_forall_mem_list fun a ha b hb =>
      hp a b (List.mem_filter.1 ha).2 (List.mem_filter.1 hb).2
  have hsublist := (List.sublist_mergeSort htrans htotal hsorted List.filter_sublist).filter p
  rw [List.filter_filter] at hsublist
  simp only [Bool.and_self] at hsublist
  exact (hsublist.eq_of_length ((List.mergeSort_perm xs le).filter p).length_eq.symm).symm

end Sorted

namespace Listing

variable (rename : String → String)

/-- Whether a site is listed before another one, or not kept from it by file and line. -/
def InOrder (s t : MutationSite) : Prop :=
  fileOf rename s < fileOf rename t ∨ fileOf rename s = fileOf rename t ∧ lineOf s ≤ lineOf t

instance (s t : MutationSite) : Decidable (InOrder rename s t) := by
  unfold InOrder
  infer_instance

/-- The file and the line of a site. -/
def placeOf (s : MutationSite) : String × Nat := (fileOf rename s, lineOf s)

variable {rename} {s t u : MutationSite}

theorem InOrder.trans (hst : InOrder rename s t) (htu : InOrder rename t u) :
    InOrder rename s u := by
  rcases hst with hst | ⟨hst, hline⟩ <;> rcases htu with htu | ⟨htu, hline'⟩
  · exact .inl (Std.lt_trans hst htu)
  · exact .inl (htu ▸ hst)
  · exact .inl (hst ▸ htu)
  · exact .inr ⟨hst.trans htu, Nat.le_trans hline hline'⟩

theorem InOrder.total : InOrder rename s t ∨ InOrder rename t s := by
  by_cases hst : fileOf rename s < fileOf rename t
  · exact .inl (.inl hst)
  by_cases hts : fileOf rename t < fileOf rename s
  · exact .inr (.inl hts)
  have heq : fileOf rename s = fileOf rename t :=
    Std.le_antisymm (Std.not_lt.1 hts) (Std.not_lt.1 hst)
  exact (Nat.le_total (lineOf s) (lineOf t)).imp (fun h => .inr ⟨heq, h⟩)
    fun h => .inr ⟨heq.symm, h⟩

theorem InOrder.antisymm (hst : InOrder rename s t) (hts : InOrder rename t s) :
    placeOf rename s = placeOf rename t := by
  rcases hst with hst | ⟨hst, hline⟩ <;> rcases hts with hts | ⟨hts, hline'⟩
  · exact absurd (Std.lt_trans hst hts) Std.lt_irrefl
  · exact absurd (hts ▸ hst) Std.lt_irrefl
  · exact absurd (hst ▸ hts) Std.lt_irrefl
  · exact Prod.ext hst (Nat.le_antisymm hline hline')

theorem inOrder_of_placeOf_eq (h : placeOf rename s = placeOf rename t) : InOrder rename s t := by
  obtain ⟨hfile, hline⟩ := Prod.mk.inj h
  exact .inr ⟨hfile, Nat.le_of_eq hline⟩

/-! ### Groups -/

abbrev Lines := List (Nat × List MutationSite)

/-- The sites of a line of a file. -/
def sitesAt (files : List (String × Lines)) (place : String × Nat) : List MutationSite :=
  (((files.lookup place.1).getD []).lookup place.2).getD []

/-- Files and their lines in ascending order, with these sites. -/
structure Grouped (rename : String → String) (files : List (String × Lines))
    (sites : List MutationSite) : Prop where
  ascending_files : Keyed.Ascending (fun a b => decide (a < b)) files
  ascending_lines : ∀ file lines, files.lookup file = some lines →
    Keyed.Ascending (fun a b => decide (a < b)) lines
  sites_eq : ∀ place, sitesAt files place = sites.filter fun s => placeOf rename s = place

namespace Grouped

variable {files : List (String × Lines)} {sites : List MutationSite}

theorem ascending_getD (h : Grouped rename files sites) (file : String) :
    Keyed.Ascending (fun a b => decide (a < b)) ((files.lookup file).getD []) := by
  cases hlines : files.lookup file with
  | none => exact Keyed.ascending_nil
  | some lines => exact h.ascending_lines file lines hlines

/-- A site is added to its line. -/
theorem add (h : Grouped rename files sites) (s : MutationSite) :
    Grouped rename (Keyed.update (fun a b => decide (a < b)) (fileOf rename s)
      (fun lines => addToLine s (lines.getD [])) files) (sites ++ [s]) := by
  have hlines := h.ascending_getD (fileOf rename s)
  have hlookup : ∀ file, (Keyed.update (fun a b => decide (a < b)) (fileOf rename s)
      (fun lines => addToLine s (lines.getD [])) files).lookup file =
        if file = fileOf rename s then some (addToLine s ((files.lookup (fileOf rename s)).getD []))
        else files.lookup file := Keyed.lookup_update Keyed.isOrder_string h.ascending_files
  refine ⟨Keyed.ascending_update Keyed.isOrder_string h.ascending_files,
    fun file lines hfile => ?_, fun place => ?_⟩
  · rw [hlookup] at hfile
    split at hfile
    · obtain rfl := Option.some.inj hfile
      exact Keyed.ascending_update Keyed.isOrder_nat hlines
    · exact h.ascending_lines file lines hfile
  · obtain ⟨file, line⟩ := place
    rw [List.filter_append, ← h.sites_eq, sitesAt, sitesAt, hlookup]
    by_cases hfile : file = fileOf rename s
    · subst hfile
      rw [if_pos rfl, Option.getD_some, addToLine, Keyed.lookup_update Keyed.isOrder_nat hlines]
      by_cases hline : line = lineOf s
      · subst hline
        simp [placeOf]
      · simp [placeOf, hline, Ne.symm hline]
    · simp [placeOf, hfile, Ne.symm hfile]

theorem byFile (rename : String → String) (sites : List MutationSite) :
    Grouped rename (byFile rename sites) sites := by
  have hfold : ∀ files done, Grouped rename files done → Grouped rename
      (sites.foldl (fun files s => Keyed.update (fun a b => decide (a < b)) (fileOf rename s)
        (fun lines => addToLine s (lines.getD [])) files) files) (done ++ sites) := by
    induction sites with
    | nil => intro files done h; rwa [List.append_nil]
    | cons s sites ih =>
      intro files done h
      have hrest := ih _ _ (h.add s)
      rwa [List.append_assoc] at hrest
  exact hfold [] [] ⟨Keyed.ascending_nil, nofun, fun _ => rfl⟩

variable {p : String × Lines} {q : Nat × List MutationSite}

theorem ascending_of_mem (h : Grouped rename files sites) (hp : p ∈ files) :
    Keyed.Ascending (fun a b => decide (a < b)) p.2 :=
  h.ascending_lines p.1 p.2 (h.ascending_files.lookup_eq_some Keyed.isOrder_string hp)

/-- What stands in a line of a file are the sites of that place. -/
theorem sites_of_mem (h : Grouped rename files sites) (hp : p ∈ files) (hq : q ∈ p.2) :
    q.2 = sites.filter fun s => placeOf rename s = (p.1, q.1) := by
  have hfile := h.ascending_files.lookup_eq_some Keyed.isOrder_string hp
  have hline := (h.ascending_of_mem hp).lookup_eq_some Keyed.isOrder_nat hq
  rw [← h.sites_eq, sitesAt, hfile, Option.getD_some, hline, Option.getD_some]

theorem placeOf_of_mem (h : Grouped rename files sites) (hp : p ∈ files) (hq : q ∈ p.2)
    (hs : s ∈ q.2) : placeOf rename s = (p.1, q.1) := by
  rw [h.sites_of_mem hp hq] at hs
  simpa using (List.mem_filter.1 hs).2

theorem filter_eq_nil (h : Grouped rename files sites) (hp : p ∈ files) (hq : q ∈ p.2)
    {place : String × Nat} (hne : (p.1, q.1) ≠ place) :
    q.2.filter (fun s => placeOf rename s = place) = [] := by
  refine List.filter_eq_nil_iff.2 fun s hs => ?_
  simpa [h.placeOf_of_mem hp hq hs] using hne

end Grouped

/-! ### The listing -/

theorem listed_eq_flatMap (rename : String → String) (sites : List MutationSite) :
    listed rename sites = (byFile rename sites).flatMap fun p => p.2.flatMap Prod.snd := by
  rw [listed, groups, List.flatMap_assoc]
  refine congrArg (List.flatMap · (byFile rename sites)) (funext fun p => ?_)
  exact List.flatMap_map ..

/-- Of every place the same sites are listed in the same order. -/
theorem filter_listed (rename : String → String) (sites : List MutationSite)
    (place : String × Nat) : (listed rename sites).filter (fun s => placeOf rename s = place) =
      sites.filter fun s => placeOf rename s = place := by
  have h := Grouped.byFile rename sites
  obtain ⟨file, line⟩ := place
  simp only [listed_eq_flatMap, List.filter_flatMap]
  rw [Keyed.flatMap_eq_lookup Keyed.isOrder_string h.ascending_files file fun p hp hne =>
    List.flatMap_eq_nil_iff.2 fun q hq =>
      h.filter_eq_nil hp hq fun heq => hne (Prod.mk.inj heq).1, ← h.sites_eq, sitesAt]
  cases hfile : (byFile rename sites).lookup file with
  | none => rfl
  | some lines =>
    have hp := Keyed.mem_of_lookup_eq_some hfile
    rw [Option.elim_some, Keyed.flatMap_eq_lookup Keyed.isOrder_nat
      (h.ascending_lines file lines hfile) line fun q hq hne =>
        h.filter_eq_nil hp hq fun heq => hne (Prod.mk.inj heq).2, Option.getD_some]
    cases hline : lines.lookup line with
    | none => rfl
    | some there =>
      have hthere := h.sites_of_mem hp (Keyed.mem_of_lookup_eq_some hline)
      simp only at hthere
      rw [Option.elim_some, hthere, List.filter_filter]
      simp

theorem pairwise_listed (rename : String → String) (sites : List MutationSite) :
    (listed rename sites).Pairwise (InOrder rename) := by
  have h := Grouped.byFile rename sites
  rw [listed_eq_flatMap, List.pairwise_flatMap]
  refine ⟨fun p hp => List.pairwise_flatMap.2 ⟨fun q hq => ?_, ?_⟩, ?_⟩
  · refine List.pairwise_of_forall_mem_list fun s hs t ht => inOrder_of_placeOf_eq ?_
    rw [h.placeOf_of_mem hp hq hs, h.placeOf_of_mem hp hq ht]
  · refine (h.ascending_of_mem hp).imp_of_mem fun {q q'} hq hq' hlt s hs t ht => ?_
    obtain ⟨hfile, hline⟩ := Prod.mk.inj (h.placeOf_of_mem hp hq hs)
    obtain ⟨hfile', hline'⟩ := Prod.mk.inj (h.placeOf_of_mem hp hq' ht)
    refine .inr ⟨hfile.trans hfile'.symm, ?_⟩
    rw [hline, hline']
    exact Nat.le_of_lt (of_decide_eq_true hlt)
  · refine h.ascending_files.imp_of_mem fun {p p'} hp hp' hlt s hs t ht => .inl ?_
    obtain ⟨q, hq, hs⟩ := List.mem_flatMap.1 hs
    obtain ⟨q', hq', ht⟩ := List.mem_flatMap.1 ht
    rw [(Prod.mk.inj (h.placeOf_of_mem hp hq hs)).1, (Prod.mk.inj (h.placeOf_of_mem hp' hq' ht)).1]
    exact of_decide_eq_true hlt

/-- Sites in order are determined by those of every place. -/
theorem eq_of_filter_placeOf_eq {xs ys : List MutationSite} (hxs : xs.Pairwise (InOrder rename))
    (hys : ys.Pairwise (InOrder rename))
    (h : ∀ place, xs.filter (fun s => placeOf rename s = place) =
      ys.filter fun s => placeOf rename s = place) : xs = ys := by
  have hantisymm : ∀ s t, InOrder rename s t → InOrder rename t s →
      placeOf rename s = placeOf rename t := fun s t => InOrder.antisymm
  exact eq_of_filter_eq hantisymm hxs hys h

/-- The listing is the stable sort of the sites by file and line. -/
theorem listed_eq_mergeSort (rename : String → String) (sites : List MutationSite) :
    listed rename sites = sites.mergeSort fun s t => decide (InOrder rename s t) := by
  have htrans : ∀ s t u : MutationSite, decide (InOrder rename s t) → decide (InOrder rename t u) →
      decide (InOrder rename s u) := by
    simp only [decide_eq_true_eq]
    exact fun s t u => InOrder.trans
  have htotal : ∀ s t : MutationSite,
      decide (InOrder rename s t) || decide (InOrder rename t s) := by
    simp only [Bool.or_eq_true, decide_eq_true_eq]
    exact fun s t => InOrder.total
  have hsorted := (List.pairwise_mergeSort htrans htotal sites).imp of_decide_eq_true
  refine eq_of_filter_placeOf_eq (pairwise_listed rename sites) hsorted fun place => ?_
  rw [filter_listed, filter_mergeSort htrans htotal]
  intro s t hs ht
  rw [decide_eq_true_eq] at hs ht ⊢
  exact inOrder_of_placeOf_eq (hs.trans ht.symm)

/-- Positions in the listing are those of the sites exactly if the sites are in order already. -/
theorem listed_eq_self_iff {sites : List MutationSite} :
    listed rename sites = sites ↔ sites.Pairwise (InOrder rename) := by
  constructor
  · intro h
    have hsorted := pairwise_listed rename sites
    rwa [h] at hsorted
  · intro h
    exact eq_of_filter_placeOf_eq (pairwise_listed rename sites) h (filter_listed rename sites)

end Listing

end BytecodeMutation
