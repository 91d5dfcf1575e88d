import BytecodeMutation.Proofs.Engine.Passes
import BytecodeMutation.Proofs.Operator.Names

/-! All passes over a method together. No two offers have the same identifier, so nothing is ever
refused for a taken one: without a target the traversal lists the offers of all operators as sites,
and with a target it lists the same sites and applies the one offer that is meant. -/

namespace BytecodeMutation

/-- The offers of several operators, in the order of their passes. -/
def allOffers (operators : List Operator) (context : InstructionContext) : List Offer :=
  operators.flatMap fun o => o.offers context

/-! ### Identifiers -/

theorem Operator.index_le_of_mem_offersFrom {o : Operator} {context : InstructionContext}
    {index : Nat} {line : Option UInt32} {is : List Instruction} {f : Offer}
    (hf : f ∈ o.offersFrom context index line is) : index ≤ f.index := by
  obtain ⟨-, -, before, -, -, hindex, -⟩ := mem_offersFrom.1 hf
  omega

theorem Operator.pairwise_offersFrom (o : Operator) (context : InstructionContext) (index : Nat)
    (line : Option UInt32) (is : List Instruction) :
    (o.offersFrom context index line is).Pairwise fun f g => f.index < g.index := by
  induction is generalizing index line with
  | nil => exact .nil
  | cons i is ih =>
    rw [offersFrom]
    cases o.candidate? context i with
    | none => exact ih _ _
    | some r =>
      refine .cons (fun g hg => ?_) (ih _ _)
      exact index_le_of_mem_offersFrom hg

/-- An operator makes one offer for an instruction at most, and no two operators share a name. -/
theorem nodup_identifiers {operators : List Operator} (h : operators.Nodup)
    (context : InstructionContext) (key : MethodKey) :
    ((allOffers operators context).map fun f => f.identifier key).Nodup := by
  rw [List.Nodup, List.pairwise_map, allOffers, List.pairwise_flatMap]
  refine ⟨fun o _ => ?_, ?_⟩
  · refine (o.pairwise_offersFrom context 0 none context.method.instructions).imp ?_
    intro f g hlt hid
    have hindex : f.index = g.index := congrArg MutationIdentifier.index hid
    omega
  · refine h.imp ?_
    intro o o' hne f hf g hg hid
    obtain ⟨rfl, -⟩ := Operator.mem_offersFrom.1 hf
    obtain ⟨rfl, -⟩ := Operator.mem_offersFrom.1 hg
    exact hne (Operator.name_injective (congrArg MutationIdentifier.operator hid))

/-! ### Registration -/

namespace SiteRegistry

variable {r : SiteRegistry} {fs : List Offer}

theorem withSites_append (r : SiteRegistry) (fs gs : List Offer) :
    r.withSites (fs ++ gs) = (r.withSites fs).withSites gs := by
  simp only [withSites, Offer.sitesFrom_append, List.append_assoc, List.length_append,
    Offer.length_sitesFrom, List.foldl_append]

theorem isRegistered_withSites (id : MutationIdentifier) :
    (r.withSites fs).isRegistered id = true ↔
      r.isRegistered id = true ∨ id ∈ fs.map fun f => f.identifier r.method := by
  simp only [isRegistered, withSites, List.contains_iff_mem]
  generalize r.registered = ids
  induction fs generalizing ids with
  | nil => simp
  | cons f fs ih =>
    rw [List.foldl_cons, ih, List.mem_insert_iff, List.map_cons, List.mem_cons]
    exact (or_congr_left or_comm).trans or_assoc

/-- Offers whose identifiers are free, and differ from each other. -/
def Fresh (r : SiteRegistry) (fs : List Offer) : Prop :=
  (fs.map fun f => f.identifier r.method).Nodup ∧
    ∀ f ∈ fs, r.isRegistered (f.identifier r.method) = false

theorem Fresh.left {gs : List Offer} (h : r.Fresh (fs ++ gs)) : r.Fresh fs := by
  obtain ⟨hnodup, hfree⟩ := h
  rw [List.map_append] at hnodup
  exact ⟨(List.nodup_append.1 hnodup).1, fun f hf => hfree f (List.mem_append_left gs hf)⟩

/-- What is fresh stays so when other offers are registered first. -/
theorem Fresh.right {gs : List Offer} (h : r.Fresh (fs ++ gs)) (line : Option UInt32)
    (applied : Option MutationIdentifier) :
    ({ r.withSites fs with line, applied } : SiteRegistry).Fresh gs := by
  obtain ⟨hnodup, hfree⟩ := h
  rw [List.map_append, List.nodup_append] at hnodup
  refine ⟨hnodup.2.1, fun g hg => Bool.eq_false_iff.2 fun htaken => ?_⟩
  rcases (isRegistered_withSites (g.identifier r.method)).1 htaken with h | h
  · rw [hfree g (List.mem_append_right fs hg)] at h
    cases h
  · exact hnodup.2.2 _ h _ (List.mem_map_of_mem hg) rfl

theorem Fresh.enterAll (h : r.Fresh fs) : r.enterAll fs = .ok (r.recordAll fs) := by
  induction fs generalizing r with
  | nil => rfl
  | cons f fs ih =>
    have hf : r.enter f = .ok (r.record f) := by
      rw [enter_eq, h.2 f List.mem_cons_self]
      rfl
    have hrest : (r.record f).Fresh fs := (show r.Fresh ([f] ++ fs) from h).right f.line r.applied
    rw [enterAll_cons, hf, ok_bind, ih hrest]
    rfl

end SiteRegistry

/-! ### Runs -/

namespace Traversal

variable {context : InstructionContext} {operators : List Operator} {t : Traversal}

theorem allOffers_cons (o : Operator) (os : List Operator) :
    allOffers (o :: os) context = o.offers context ++ allOffers os context := List.flatMap_cons

/-- Passes that do not meet the target add their sites and nothing else. -/
theorem passes_spared (hfresh : t.registry.Fresh (allOffers operators context))
    (hspared : ∀ f ∈ allOffers operators context, t.registry.aimsAt f = false) :
    ∃ line, operators.foldlM (pass context) t =
      .ok ⟨(t.registry.withSites (allOffers operators context)).setLine line, t.mutated⟩ := by
  induction operators generalizing t with
  | nil =>
    refine ⟨t.registry.line, ?_⟩
    simp only [allOffers, List.flatMap_nil, SiteRegistry.withSites, Offer.sitesFrom,
      List.append_nil, SiteRegistry.setLine]
    rfl
  | cons o operators ih =>
    rw [allOffers_cons] at hfresh hspared ⊢
    have hpass := pass_spared fun f hf => hspared f (List.mem_append_left _ hf)
    obtain ⟨line, hrecord⟩ := t.registry.recordAll_eq_withSites (o.offers context)
    rw [hfresh.left.enterAll, hrecord, ok_map] at hpass
    obtain ⟨line', hrest⟩ := @ih
      ⟨((t.registry.withSites (o.offers context)).setLine line).setLine
        (lastLine none context.method.instructions), t.mutated⟩
      (hfresh.right _ t.registry.applied)
      (fun f hf => hspared f (List.mem_append_right _ hf))
    refine ⟨line', ?_⟩
    rw [List.foldlM_cons, hpass, ok_bind, hrest, SiteRegistry.withSites_append]
    rfl

/-- The pass of the target adds its sites and puts the method into its mutated form. -/
theorem pass_applies {o : Operator} {f : Offer} (hf : f ∈ o.offers context)
    (hfresh : t.registry.Fresh (o.offers context)) (haim : t.registry.aimsAt f = true) :
    ∃ line, pass context t o = (f.apply context.method).map fun n =>
      ⟨{ t.registry.withSites (o.offers context) with
          line, applied := some (f.identifier t.registry.method) }, some n⟩ := by
  obtain ⟨before, after, hoffers, hpass⟩ := pass_aimed hf haim
  have hsplit : o.offers context = (before ++ [f]) ++ after := by
    rw [hoffers, List.append_assoc]
    rfl
  rw [hsplit] at hfresh ⊢
  obtain ⟨line, hrecord⟩ := t.registry.recordAll_eq_withSites (before ++ [f])
  have hafter := (hfresh.right line (some (f.identifier t.registry.method))).enterAll
  obtain ⟨line', hrecord'⟩ := SiteRegistry.recordAll_eq_withSites
    { t.registry.withSites (before ++ [f]) with
      line, applied := some (f.identifier t.registry.method) } after
  refine ⟨lastLine none context.method.instructions, ?_⟩
  rw [hpass, hfresh.left.enterAll, ok_bind, hrecord, Offer.apply]
  cases f.code context.method with
  | error e => rfl
  | ok result =>
    obtain ⟨code, locals⟩ := result
    rw [ok_bind, ok_bind]
    change (SiteRegistry.enterAll { t.registry.withSites (before ++ [f]) with
      line, applied := some (f.identifier t.registry.method) } after >>= _) = _
    rw [hafter, ok_bind, hrecord', SiteRegistry.withSites_append t.registry (before ++ [f]) after]
    change _ = (f.body context.method code locals).map _
    cases f.body context.method code locals <;> rfl

theorem aimsAt_eq_false {r : SiteRegistry} {f g : Offer} (h : r.aimsAt f = true)
    (hne : g.identifier r.method ≠ f.identifier r.method) : r.aimsAt g = false := by
  refine Bool.eq_false_iff.2 fun hg => ?_
  have hf := (SiteRegistry.aimsAt_iff.1 h).2
  rw [(SiteRegistry.aimsAt_iff.1 hg).2, Option.some.injEq] at hf
  exact hne hf

/-- Of the passes one applies the target; all sites are the same as without it. -/
theorem passes_aimed {f : Offer} (hf : f ∈ allOffers operators context)
    (hfresh : t.registry.Fresh (allOffers operators context))
    (haim : t.registry.aimsAt f = true) :
    ∃ line, operators.foldlM (pass context) t = (f.apply context.method).map fun n =>
      ⟨{ t.registry.withSites (allOffers operators context) with
          line, applied := some (f.identifier t.registry.method) }, some n⟩ := by
  induction operators generalizing t with
  | nil => cases hf
  | cons o operators ih =>
    rw [allOffers_cons] at hf hfresh ⊢
    rcases List.mem_append.1 hf with hf | hf
    · obtain ⟨line, hpass⟩ := pass_applies hf hfresh.left haim
      cases happly : f.apply context.method with
      | error e =>
        rw [happly] at hpass
        exact ⟨line, by rw [List.foldlM_cons, hpass]; rfl⟩
      | ok n =>
        rw [happly, ok_map] at hpass
        -- nothing is aimed at once the target is applied
        obtain ⟨line', hrest⟩ := @passes_spared context operators
          ⟨{ t.registry.withSites (o.offers context) with
            line, applied := some (f.identifier t.registry.method) }, some n⟩
          (hfresh.right _ _) (fun _ _ => rfl)
        refine ⟨line', ?_⟩
        rw [List.foldlM_cons, hpass, ok_bind, hrest, ok_map, SiteRegistry.withSites_append]
        rfl
    · have hspared : ∀ g ∈ o.offers context, t.registry.aimsAt g = false := by
        intro g hg
        refine aimsAt_eq_false haim fun hid => ?_
        have hnodup := hfresh.1
        rw [List.map_append] at hnodup
        exact (List.nodup_append.1 hnodup).2.2 _ (List.mem_map_of_mem hg) _
          (List.mem_map_of_mem hf) hid
      have hpass := pass_spared hspared
      obtain ⟨line, hrecord⟩ := t.registry.recordAll_eq_withSites (o.offers context)
      rw [hfresh.left.enterAll, hrecord, ok_map] at hpass
      obtain ⟨line', hrest⟩ := @ih
        ⟨((t.registry.withSites (o.offers context)).setLine line).setLine
          (lastLine none context.method.instructions), t.mutated⟩ hf
        (hfresh.right _ t.registry.applied) haim
      refine ⟨line', ?_⟩
      rw [List.foldlM_cons, hpass, ok_bind, hrest, SiteRegistry.withSites_append]
      rfl

end Traversal

/-! ### Traversals of methods -/

namespace MutationEngine

variable {e : MutationEngine}

/-- The offers of the engine for a method. -/
def offersFor (e : MutationEngine) (m : MethodBody) : List Offer :=
  allOffers e.operators ⟨m, e.catalog⟩

/-- The sites of a method. -/
def sitesOf (e : MutationEngine) (u : ClassUnit) (m : MethodBody) : List MutationSite :=
  Offer.sitesFrom (MethodKey.of u.name m) u.sourceFile 0 (e.offersFor m)

theorem mem_map_id_sitesOf {u : ClassUnit} {m : MethodBody} {id : MutationIdentifier} :
    id ∈ (e.sitesOf u m).map MutationSite.id ↔
      ∃ f ∈ e.offersFor m, f.identifier (MethodKey.of u.name m) = id := by
  rw [sitesOf, Offer.map_id_sitesFrom, List.mem_map]

theorem nodup_map_id_sitesOf (h : e.operators.Nodup) (u : ClassUnit) (m : MethodBody) :
    ((e.sitesOf u m).map MutationSite.id).Nodup := by
  rw [sitesOf, Offer.map_id_sitesFrom]
  exact nodup_identifiers h _ _

theorem fresh_start (h : e.operators.Nodup) (u : ClassUnit) (m : MethodBody)
    (target : Option MutationIdentifier) :
    (SiteRegistry.start (MethodKey.of u.name m) u.sourceFile target).Fresh (e.offersFor m) :=
  ⟨nodup_identifiers h _ _, fun _ _ => rfl⟩

/-- Without a target a traversal lists the sites of the method. -/
theorem traverse_untargeted (h : e.operators.Nodup) (u : ClassUnit) (m : MethodBody) :
    ∃ t, e.traverse u m none = .ok t ∧ t.sites = e.sitesOf u m ∧ t.mutated = none := by
  obtain ⟨line, hrun⟩ := @Traversal.passes_spared ⟨m, e.catalog⟩ e.operators
    ⟨.start (MethodKey.of u.name m) u.sourceFile none, none⟩ (fresh_start h u m none)
    (fun _ _ => rfl)
  exact ⟨_, traverse_eq_ok.2 hrun, rfl, rfl⟩

/-- With one of the identifiers as its target a traversal lists the same sites and makes of the
method what the offer makes of it. -/
theorem traverse_targeted (h : e.operators.Nodup) (u : ClassUnit) {m : MethodBody} {f : Offer}
    (hf : f ∈ e.offersFor m) :
    (∃ n t, f.apply m = .ok n ∧
      e.traverse u m (some (f.identifier (MethodKey.of u.name m))) = .ok t ∧
      t.sites = e.sitesOf u m ∧ t.mutated = some n) ∨
    ∃ cause, f.apply m = .error cause ∧
      e.traverse u m (some (f.identifier (MethodKey.of u.name m))) =
        .error (.aborted (MethodKey.of u.name m).text cause) := by
  obtain ⟨line, hrun⟩ := @Traversal.passes_aimed ⟨m, e.catalog⟩ e.operators
    ⟨.start (MethodKey.of u.name m) u.sourceFile (some (f.identifier (MethodKey.of u.name m))),
      none⟩ f hf (fresh_start h u m _) (SiteRegistry.aimsAt_iff.2 ⟨rfl, rfl⟩)
  cases happly : f.apply m with
  | ok n =>
    rw [happly] at hrun
    exact .inl ⟨n, _, rfl, traverse_eq_ok.2 hrun, rfl, rfl⟩
  | error cause =>
    rw [happly] at hrun
    exact .inr ⟨cause, rfl, traverse_of_error hrun⟩

/-- Discovery is never refused, and lists the sites method by method. -/
theorem discover_eq (h : e.operators.Nodup) (units : List ClassUnit) :
    e.discover units =
      .ok ((e.admittedMethods units).flatMap fun (u, m) => e.sitesOf u m) := by
  have hmethod : ∀ q ∈ e.admittedMethods units,
      (fun (u, m) => (e.traverse u m none).map Traversal.sites) q =
        .ok ((fun (u, m) => e.sitesOf u m) q) := by
    rintro ⟨u, m⟩ -
    obtain ⟨t, ht, hsites, -⟩ := traverse_untargeted h u m
    simp only [ht, ok_map, hsites]
  rw [discover, mapM_ok hmethod, ok_bind, pure_eq_ok, List.flatMap_def]

end MutationEngine

end BytecodeMutation
