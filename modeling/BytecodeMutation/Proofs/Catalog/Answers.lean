import BytecodeMutation.Proofs.Catalog.Building
import Mathlib.Algebra.Ring.Nat

/-! What a builder answers: whether a record was added, and how many methods of a unit were. In any
history of requests a record is added exactly if it is no initializer and was not offered before. So
a catalog holds the first offers in their order, and as many of them as were reported. -/

namespace BytecodeMutation

/-- What a request is answered with: whether its record was added, or how many of its unit. -/
inductive CatalogAnswer where
  | added (taken : Bool)
  | counted (n : Nat)
  deriving DecidableEq

/-- How many new records an answer reports. -/
def CatalogAnswer.count : CatalogAnswer → Nat
  | added taken => taken.toNat
  | counted n => n

namespace CatalogBuilder

/-- How many records are added when they are offered one after the other. -/
def countAdded : CatalogBuilder → List SignatureRecord → Nat
  | _, [] => 0
  | b, r :: rs => (b.accepts r).toNat + countAdded (b.add r) rs

def answer (b : CatalogBuilder) : CatalogRequest → CatalogAnswer
  | .add r => .added (b.accepts r)
  | .scan u => .counted (b.countAdded u.signatures)
  | .scanAdmitted policy u =>
    .counted (if policy.admitsClass u.name then b.countAdded u.signatures else 0)

def answers : CatalogBuilder → List CatalogRequest → List CatalogAnswer
  | _, [] => []
  | b, request :: requests => b.answer request :: answers (b.after request) requests

variable {b : CatalogBuilder}

theorem length_add (r : SignatureRecord) :
    (b.add r).records.length = b.records.length + (b.accepts r).toNat := by
  rw [add]
  cases b.accepts r with
  | true => exact List.length_append
  | false => rfl

theorem length_addAll (b : CatalogBuilder) (rs : List SignatureRecord) :
    (b.addAll rs).records.length = b.records.length + b.countAdded rs := by
  induction rs generalizing b with
  | nil => rfl
  | cons r rs ih =>
    rw [addAll_cons, ih, length_add, countAdded, Nat.add_assoc]

theorem count_answer (request : CatalogRequest) :
    (b.answer request).count = b.countAdded request.offered := by
  cases request with
  | add r => rfl
  | scan u => rfl
  | scanAdmitted policy u =>
    rw [answer, CatalogRequest.offered, CatalogAnswer.count]
    split <;> rfl

/-- A request adds as many records as it is answered with. -/
theorem length_after (request : CatalogRequest) :
    (b.after request).records.length = b.records.length + (b.answer request).count := by
  rw [after_eq_addAll, length_addAll, count_answer]

theorem addedIn_after (request : CatalogRequest) :
    b.addedIn (b.after request) = (b.answer request).count := by
  rw [addedIn, length_after, Nat.add_sub_cancel_left]

theorem length_run (b : CatalogBuilder) (requests : List CatalogRequest) :
    (b.run requests).records.length =
      b.records.length + ((b.answers requests).map CatalogAnswer.count).sum := by
  induction requests generalizing b with
  | nil => rfl
  | cons request requests ih =>
    rw [run_cons, ih, length_after, answers, List.map_cons, List.sum_cons, Nat.add_assoc]

variable (generation : UInt64) (requests : List CatalogRequest)

theorem accepts_run_iff {r : SignatureRecord} :
    ((start generation).run requests).accepts r = true ↔
      r.isInitializer = false ∧ r ∉ requests.flatMap CatalogRequest.offered := by
  rw [(holds_run generation requests).accepts_iff]
  refine and_congr_right fun hplain => not_congr ?_
  rw [List.mem_filter, hplain]
  exact and_iff_left rfl

/-- After any requests a catalog holds what was offered, without initializers and with the first of
equal records only, in the order of the offers, and the set of the builder has the same records. All
answers together report as many new records as the catalog holds. The next record is added exactly
if it is no initializer and was not offered before, and every request adds as many records as it is
answered with. -/
theorem catalog_holds_first_offers :
    let offered := requests.flatMap CatalogRequest.offered
    let b := (start generation).run requests
    b.build = ⟨generation, (offered.filter fun r => !r.isInitializer).eraseDups⟩ ∧
      (∀ r, r ∈ b.seen ↔ r ∈ b.build.records) ∧
      (((start generation).answers requests).map CatalogAnswer.count).sum =
        b.build.records.length ∧
      (∀ r, b.answer (.add r) = .added true ↔ r.isInitializer = false ∧ r ∉ offered) ∧
      ∀ request, (b.answer request).count = b.addedIn (b.after request) := by
  intro offered b
  refine ⟨build_run generation requests, (holds_run generation requests).mem_seen_iff, ?_,
    fun r => ?_, fun request => (addedIn_after request).symm⟩
  · exact (Nat.zero_add _).symm.trans (length_run (start generation) requests).symm
  · rw [answer, CatalogAnswer.added.injEq]
    exact accepts_run_iff generation requests

/-- Of a unit that is scanned after one of its methods was added, the constructor and that method
are passed over; a class that is not admitted adds nothing. -/
example :
    let unit : ClassUnit := ⟨"A", none, [⟨"<init>", ⟨[], .void⟩, false, 1, 1, [.ret]⟩,
      ⟨"f", ⟨[], .void⟩, true, 0, 0, [.ret]⟩, ⟨"g", ⟨[], .void⟩, true, 0, 0, [.ret]⟩]⟩
    let requests := [.add ⟨"A", "g", ⟨[], .void⟩, true⟩, .scan unit,
      .add ⟨"A", "f", ⟨[], .void⟩, true⟩, .scanAdmitted ⟨(· == "B"), fun _ => true⟩ unit]
    (start 1).answers requests = [.added true, .counted 1, .added false, .counted 0] ∧
      ((start 1).run requests).build.records.map SignatureRecord.name = ["g", "f"] := by
  decide

end CatalogBuilder

end BytecodeMutation
