import BytecodeMutation.Site.Registry
import Mathlib.Data.List.Induction

/-! Histories of a registry: requests in any order, with registrations that are refused and marks of
identifiers that were never registered. What the registry holds can be read off its history alone.
Each site is the first registration of its operator at its instruction, numbered by the sites before
it, at the line that was set last; the set of identifiers is that of the sites; and a target is due
until anything is marked as applied. -/

namespace BytecodeMutation

/-- A request to a registry. -/
inductive SiteRequest where
  | setLine (line : Option UInt32)
  | register (operator : String) (category : Category) (index : Nat) (description : String)
  | shouldMutate (id : MutationIdentifier)
  | markApplied (id : MutationIdentifier)
  deriving DecidableEq

/-- The line that a request sets, if it sets one. -/
def SiteRequest.lineSet? : SiteRequest → Option (Option UInt32)
  | setLine line => some line
  | _ => none

namespace SiteRegistry

/-! ### What a history says -/

/-- The line that was set last; there is none before any was set. -/
def lineAfter (requests : List SiteRequest) : Option UInt32 :=
  (requests.filterMap SiteRequest.lineSet?).getLast?.join

/-- Whether a registration of the operator at the instruction was asked for. -/
def Registered (requests : List SiteRequest) (operator : String) (index : Nat) : Prop :=
  ∃ category description, .register operator category index description ∈ requests

/-- Whether nothing was marked as applied. -/
def Unmarked (requests : List SiteRequest) : Prop := ∀ id, .markApplied id ∉ requests

/-- Whether a site is that of a first registration, at a position and at the line set last
before. -/
def FirstRegistered (method : MethodKey) (file : Option String) (requests : List SiteRequest)
    (position : Nat) (site : MutationSite) : Prop :=
  ∃ before operator category index description later,
    requests = before ++ .register operator category index description :: later ∧
      ¬ Registered before operator index ∧
      site = ⟨position, ⟨method, operator, index⟩, category, description, ⟨file, lineAfter before⟩⟩

section Concat

variable (requests : List SiteRequest) (request : SiteRequest)

theorem lineAfter_concat :
    lineAfter (requests ++ [request]) = request.lineSet?.getD (lineAfter requests) := by
  cases h : request.lineSet? <;> simp [lineAfter, h]

theorem registered_concat {operator : String} {index : Nat} :
    Registered (requests ++ [request]) operator index ↔
      Registered requests operator index ∨ Registered [request] operator index := by
  simp only [Registered, List.mem_append, exists_or]

theorem registered_singleton {operator operator' description : String} {index index' : Nat}
    {category : Category} :
    Registered [.register operator' category index' description] operator index ↔
      operator' = operator ∧ index' = index := by
  simp [Registered, eq_comm]

theorem unmarked_concat :
    Unmarked (requests ++ [request]) ↔ Unmarked requests ∧ ∀ id, request ≠ .markApplied id := by
  simp only [Unmarked, List.mem_append, List.mem_singleton, not_or, forall_and, ne_comm, ne_eq]

/-- A longer history explains the sites that a shorter one explains. -/
theorem FirstRegistered.concat {requests : List SiteRequest} {method : MethodKey}
    {file : Option String} {position : Nat} {site : MutationSite}
    (h : FirstRegistered method file requests position site) (request : SiteRequest) :
    FirstRegistered method file (requests ++ [request]) position site := by
  obtain ⟨before, operator, category, index, description, later, rfl, hfirst, hsite⟩ := h
  exact ⟨before, operator, category, index, description, later ++ [request], by simp, hfirst, hsite⟩

end Concat

/-! ### Requests -/

/-- The registry after a request; a refused registration leaves it as it was. -/
def after (r : SiteRegistry) : SiteRequest → SiteRegistry
  | .setLine line => r.setLine line
  | .register operator category index description =>
    match r.register operator category index description with
    | .ok s => s
    | .error _ => r
  | .shouldMutate _ => r
  | .markApplied id => r.markApplied id

def run (r : SiteRegistry) (requests : List SiteRequest) : SiteRegistry := requests.foldl after r

theorem run_concat (r : SiteRegistry) (requests : List SiteRequest) (request : SiteRequest) :
    r.run (requests ++ [request]) = (r.run requests).after request := by
  simp [run]

/-- The site of a registration that is not refused. -/
def siteOf (r : SiteRegistry) (operator : String) (category : Category) (index : Nat)
    (description : String) : MutationSite :=
  ⟨r.sites.length, r.identify operator index, category, description, ⟨r.sourceFile, r.line⟩⟩

theorem register_taken {r : SiteRegistry} {operator : String} {index : Nat}
    (h : r.isRegistered (r.identify operator index) = true) (category : Category)
    (description : String) : r.register operator category index description =
      .error (.identifierCollision (r.identify operator index).text) := by
  simp only [register, h, if_true]

theorem register_free {r : SiteRegistry} {operator : String} {index : Nat}
    (h : r.isRegistered (r.identify operator index) = false) (category : Category)
    (description : String) : r.register operator category index description =
      .ok { r with
        sites := r.sites ++ [r.siteOf operator category index description]
        registered := r.registered.insert (r.identify operator index) } := by
  simp only [register, h, Bool.false_eq_true, if_false, siteOf]

/-! ### What a history leaves -/

/-- Whether a registry has come about by the requests. -/
structure Follows (method : MethodKey) (file : Option String) (target : Option MutationIdentifier)
    (requests : List SiteRequest) (r : SiteRegistry) : Prop where
  method_eq : r.method = method
  sourceFile_eq : r.sourceFile = file
  target_eq : r.target = target
  line_eq : r.line = lineAfter requests
  applied_iff : r.applied = none ↔ Unmarked requests
  registered_iff : ∀ operator index,
    r.isRegistered ⟨method, operator, index⟩ = true ↔ Registered requests operator index
  /-- The set of identifiers and the list of sites are in step. -/
  mem_registered_iff : ∀ id, id ∈ r.registered ↔ id ∈ r.sites.map MutationSite.id
  nodup : (r.sites.map MutationSite.id).Nodup
  origin : ∀ (j : Nat) site, r.sites[j]? = some site → FirstRegistered method file requests j site

section Follows

variable {method : MethodKey} {file : Option String} {target : Option MutationIdentifier}
  {requests : List SiteRequest} {r : SiteRegistry}

theorem follows_start : Follows method file target [] (start method file target) where
  method_eq := rfl
  sourceFile_eq := rfl
  target_eq := rfl
  line_eq := rfl
  applied_iff := by simp [start, Unmarked]
  registered_iff := by simp [start, isRegistered, Registered]
  mem_registered_iff := by simp [start]
  nodup := List.nodup_nil
  origin := by simp [start]

/-- A request that registers nothing new leaves the sites alone. -/
theorem Follows.without_site (h : Follows method file target requests r) (request : SiteRequest)
    (line : Option UInt32) (applied : Option MutationIdentifier)
    (hknown : ∀ operator index,
      Registered [request] operator index → Registered requests operator index)
    (hline : line = lineAfter (requests ++ [request]))
    (happlied : applied = none ↔ Unmarked (requests ++ [request])) :
    Follows method file target (requests ++ [request]) { r with line, applied } where
  method_eq := h.method_eq
  sourceFile_eq := h.sourceFile_eq
  target_eq := h.target_eq
  line_eq := hline
  applied_iff := happlied
  registered_iff operator index := by
    rw [registered_concat, or_iff_left_of_imp (hknown operator index)]
    exact h.registered_iff operator index
  mem_registered_iff := h.mem_registered_iff
  nodup := h.nodup
  origin j site hsite := (h.origin j site hsite).concat request

/-- The first registration of an operator for an instruction adds a site. -/
theorem Follows.with_site (h : Follows method file target requests r) {operator : String}
    {index : Nat} (hfirst : ¬ Registered requests operator index) (category : Category)
    (description : String) : Follows method file target
      (requests ++ [.register operator category index description])
      { r with
        sites := r.sites ++ [r.siteOf operator category index description]
        registered := r.registered.insert (r.identify operator index) } where
  method_eq := h.method_eq
  sourceFile_eq := h.sourceFile_eq
  target_eq := h.target_eq
  line_eq := by
    rw [lineAfter_concat]
    exact h.line_eq
  applied_iff := by
    simpa [unmarked_concat] using h.applied_iff
  registered_iff operator' index' := by
    have hid : r.identify operator index = ⟨method, operator, index⟩ := by
      rw [identify, h.method_eq]
    rw [registered_concat, ← h.registered_iff, registered_singleton]
    simp only [isRegistered, hid, List.contains_iff_mem, List.mem_insert_iff,
      MutationIdentifier.mk.injEq, true_and]
    exact or_comm.trans (or_congr_right (and_congr eq_comm eq_comm))
  mem_registered_iff id := by
    rw [List.mem_insert_iff, h.mem_registered_iff, List.map_append, List.mem_append,
      List.map_singleton, List.mem_singleton]
    exact or_comm
  nodup := by
    have hfree : r.identify operator index ∉ r.sites.map MutationSite.id := by
      intro htaken
      refine hfirst ((h.registered_iff operator index).1 ?_)
      rw [isRegistered, List.contains_iff_mem, h.mem_registered_iff, ← h.method_eq]
      exact htaken
    rw [List.map_append, List.nodup_append]
    refine ⟨h.nodup, by simp, fun a ha b hb => ?_⟩
    obtain rfl : b = r.identify operator index := by simpa [siteOf] using hb
    exact fun heq => hfree (heq ▸ ha)
  origin j site hsite := by
    rcases Nat.lt_trichotomy j r.sites.length with hlt | rfl | hgt
    · rw [List.getElem?_append_left hlt] at hsite
      exact (h.origin j site hsite).concat _
    · obtain rfl : r.siteOf operator category index description = site := by simpa using hsite
      refine ⟨requests, operator, category, index, description, [], rfl, hfirst, ?_⟩
      rw [siteOf, identify, h.method_eq, h.sourceFile_eq, h.line_eq]
    · have hnone : (r.sites ++ [r.siteOf operator category index description])[j]? = none :=
        List.getElem?_eq_none (by simp; omega)
      rw [hnone] at hsite
      cases hsite

theorem Follows.isRegistered_iff (h : Follows method file target requests r) (operator : String)
    (index : Nat) :
    r.isRegistered (r.identify operator index) = true ↔ Registered requests operator index := by
  rw [identify, h.method_eq]
  exact h.registered_iff operator index

/-- One more request is followed. -/
theorem Follows.after (h : Follows method file target requests r) (request : SiteRequest) :
    Follows method file target (requests ++ [request]) (r.after request) := by
  have hline := h.line_eq
  have happlied := h.applied_iff
  cases request with
  | setLine line =>
    apply h.without_site (.setLine line) line r.applied
    · simp [Registered]
    · simp [lineAfter_concat, SiteRequest.lineSet?]
    · simpa [unmarked_concat] using happlied
  | shouldMutate id =>
    apply h.without_site (.shouldMutate id) r.line r.applied
    · simp [Registered]
    · simpa [lineAfter_concat, SiteRequest.lineSet?] using hline
    · simpa [unmarked_concat] using happlied
  | markApplied id =>
    apply h.without_site (.markApplied id) r.line (some id)
    · simp [Registered]
    · simpa [lineAfter_concat, SiteRequest.lineSet?] using hline
    · simp [unmarked_concat]
  | register operator category index description =>
    by_cases hagain : Registered requests operator index
    · have htaken := (h.isRegistered_iff operator index).2 hagain
      simp only [SiteRegistry.after, register_taken htaken]
      apply h.without_site (.register operator category index description) r.line r.applied
      · intro operator' index' hrequest
        obtain ⟨rfl, rfl⟩ := registered_singleton.1 hrequest
        exact hagain
      · simpa [lineAfter_concat, SiteRequest.lineSet?] using hline
      · simpa [unmarked_concat] using happlied
    · have hfree := Bool.eq_false_iff.2 fun htaken =>
        hagain ((h.isRegistered_iff operator index).1 htaken)
      simp only [SiteRegistry.after, register_free hfree]
      exact h.with_site hagain category description

end Follows

theorem follows_run (method : MethodKey) (file : Option String) (target : Option MutationIdentifier)
    (requests : List SiteRequest) :
    Follows method file target requests ((start method file target).run requests) := by
  induction requests using List.reverseRecOn with
  | nil => exact follows_start
  | append_singleton requests request ih =>
    rw [run_concat]
    exact ih.after request

/-- After any history the sites have different identifiers of the registry's method, which are
those of its set, and each site carries its position and the line that was set last before its
registration. A registration is refused exactly if the operator was registered for the instruction
before, and then the sites stay as they are. An identifier is due for mutation exactly if it is the
target and nothing was marked as applied. -/
theorem sites_follow_history (method : MethodKey) (file : Option String)
    (target : Option MutationIdentifier) (requests : List SiteRequest) :
    let r := (start method file target).run requests
    (r.sites.map MutationSite.id).Nodup ∧ (∀ site ∈ r.sites, site.id.method = method) ∧
      (∀ id, id ∈ r.registered ↔ id ∈ r.sites.map MutationSite.id) ∧
      (∀ (j : Nat) site, r.sites[j]? = some site →
        site.ordinal = j ∧ FirstRegistered method file requests j site) ∧
      (∀ operator category index description,
        (Registered requests operator index →
          r.register operator category index description =
              .error (.identifierCollision (MutationIdentifier.text ⟨method, operator, index⟩)) ∧
            (r.after (.register operator category index description)).sites = r.sites) ∧
        (¬ Registered requests operator index →
          r.register operator category index description = .ok { r with
            sites := r.sites ++ [⟨r.sites.length, ⟨method, operator, index⟩, category, description,
              ⟨file, lineAfter requests⟩⟩]
            registered := r.registered.insert ⟨method, operator, index⟩ })) ∧
      ∀ id, r.shouldMutate id = true ↔ target = some id ∧ Unmarked requests := by
  intro r
  have h : Follows method file target requests r := follows_run method file target requests
  have hid (operator : String) (index : Nat) :
      r.identify operator index = ⟨method, operator, index⟩ := by
    rw [identify, h.method_eq]
  refine ⟨h.nodup, fun site hsite => ?_, h.mem_registered_iff, fun j site hsite => ?_,
    fun operator category index description => ⟨fun hagain => ?_, fun hfirst => ?_⟩, fun id => ?_⟩
  · obtain ⟨j, hj⟩ := List.getElem?_of_mem hsite
    obtain ⟨_, _, _, _, _, _, -, -, rfl⟩ := h.origin j site hj
    rfl
  · have horigin := h.origin j site hsite
    refine ⟨?_, horigin⟩
    obtain ⟨_, _, _, _, _, _, -, -, rfl⟩ := horigin
    rfl
  · have hrefused :=
      register_taken ((h.isRegistered_iff operator index).2 hagain) category description
    rw [hid] at hrefused
    refine ⟨hrefused, ?_⟩
    simp only [after, hrefused]
  · have hfree := Bool.eq_false_iff.2 fun htaken =>
      hfirst ((h.isRegistered_iff operator index).1 htaken)
    rw [register_free hfree, siteOf, hid, h.sourceFile_eq, h.line_eq]
  · rw [shouldMutate, Bool.and_eq_true, Option.isNone_iff_eq_none, beq_iff_eq, h.applied_iff,
      h.target_eq, and_comm]

end SiteRegistry

end BytecodeMutation
