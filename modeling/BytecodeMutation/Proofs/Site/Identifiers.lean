import BytecodeMutation.Descriptor.Text
import BytecodeMutation.Proofs.Decimal.Digits
import BytecodeMutation.Proofs.Operator.Names
import BytecodeMutation.Site.Basic

/-! The texts of identifiers, `owner.name(parameters)type#operator@index`. The class names in a
descriptor may hold every sign that parts a text, so a text is taken apart from both ends: its owner
and name end at the first point and the first parenthesis after it, its index and operator begin
after the last `@` and the last `#` before it. What is left is the descriptor. -/

namespace BytecodeMutation

/-! ### Separators -/

section Separators

variable {α : Type} {c : α} {xs ys after after' : List α}

/-- A list is parted in one way by the first of its elements that equals `c`. -/
theorem eq_of_first_separator (hxs : c ∉ xs) (hys : c ∉ ys)
    (h : xs ++ c :: after = ys ++ c :: after') : xs = ys ∧ after = after' := by
  induction xs generalizing ys with
  | nil =>
    cases ys with
    | nil => exact ⟨rfl, (List.cons.inj h).2⟩
    | cons y ys => exact absurd ((List.cons.inj h).1 ▸ List.mem_cons_self) hys
  | cons x xs ih =>
    cases ys with
    | nil => exact absurd ((List.cons.inj h).1 ▸ List.mem_cons_self) hxs
    | cons y ys =>
      obtain ⟨rfl, hrest⟩ := List.cons.inj h
      obtain ⟨rfl, hafter⟩ := ih (fun hc => hxs (List.mem_cons_of_mem x hc))
        (fun hc => hys (List.mem_cons_of_mem x hc)) hrest
      exact ⟨rfl, hafter⟩

/-- A list is parted in one way by the last of its elements that equals `c`. -/
theorem eq_of_last_separator (hafter : c ∉ after) (hafter' : c ∉ after')
    (h : xs ++ c :: after = ys ++ c :: after') : xs = ys ∧ after = after' := by
  have hreverse := congrArg List.reverse h
  simp only [List.reverse_append, List.reverse_cons, List.append_assoc, List.singleton_append]
    at hreverse
  obtain ⟨hrest, hbefore⟩ := eq_of_first_separator (by rwa [List.mem_reverse])
    (by rwa [List.mem_reverse]) hreverse
  exact ⟨List.reverse_injective hbefore, List.reverse_injective hrest⟩

end Separators

/-! ### Identifiers -/

theorem Operator.hash_notMem_name (o : Operator) : '#' ∉ o.name.toList := by
  have hall : ∀ o ∈ Operator.all, '#' ∉ o.name.toList := by decide +kernel
  exact hall o o.mem_all

namespace MutationIdentifier

/-- The owner and the name of the method do not hold what ends them in a text, the descriptor is a
written one, and the operator is one of all operators. -/
structure Plain (id : MutationIdentifier) : Prop where
  owner : '.' ∉ id.method.owner.toList
  name : '(' ∉ id.method.name.toList
  descriptor : ∃ d : MethodDescriptor, id.method.descriptor = d.text
  operator : id.operator ∈ Operator.all.map Operator.name

namespace Plain

variable {id : MutationIdentifier}

theorem hash_notMem_operator (h : id.Plain) : '#' ∉ id.operator.toList := by
  obtain ⟨o, -, ho⟩ := List.mem_map.1 h.operator
  exact ho ▸ o.hash_notMem_name

theorem exists_descriptor_eq_cons (h : id.Plain) :
    ∃ tail, id.method.descriptor.toList = '(' :: tail := by
  obtain ⟨d, hd⟩ := h.descriptor
  refine ⟨d.params.flatMap ValueType.toChars ++ ')' :: d.ret.toChars, ?_⟩
  rw [hd, MethodDescriptor.text, String.toList_ofList, MethodDescriptor.toChars, List.cons_append]

end Plain

theorem toList_text (id : MutationIdentifier) : id.text.toList =
    id.method.owner.toList ++ '.' :: (id.method.name.toList ++ id.method.descriptor.toList ++
      '#' :: id.operator.toList ++ '@' :: Decimal.digits id.index) := by
  simp [text, MethodKey.text, Decimal.natText]

/-- No two plain identifiers have one text. -/
theorem texts_are_unambiguous {id id' : MutationIdentifier} (h : id.Plain) (h' : id'.Plain) :
    id.text = id'.text ↔ id = id' := by
  refine ⟨fun htext => ?_, congrArg text⟩
  have hchars := congrArg String.toList htext
  rw [toList_text, toList_text] at hchars
  obtain ⟨howner, hchars⟩ := eq_of_first_separator h.owner h'.owner hchars
  have hat : ∀ n, '@' ∉ Decimal.digits n := Decimal.notMem_digits (by decide)
  obtain ⟨hchars, hindex⟩ := eq_of_last_separator (hat _) (hat _) hchars
  obtain ⟨hchars, hoperator⟩ :=
    eq_of_last_separator h.hash_notMem_operator h'.hash_notMem_operator hchars
  obtain ⟨tail, htail⟩ := h.exists_descriptor_eq_cons
  obtain ⟨tail', htail'⟩ := h'.exists_descriptor_eq_cons
  rw [htail, htail'] at hchars
  obtain ⟨hname, rfl⟩ := eq_of_first_separator h.name h'.name hchars
  -- every part has the same characters, so it is the same
  obtain ⟨⟨owner, name, descriptor⟩, operator, index⟩ := id
  obtain ⟨⟨owner', name', descriptor'⟩, operator', index'⟩ := id'
  obtain rfl : owner = owner' := String.toList_injective howner
  obtain rfl : name = name' := String.toList_injective hname
  obtain rfl : descriptor = descriptor' := String.toList_injective (htail.trans htail'.symm)
  obtain rfl : operator = operator' := String.toList_injective hoperator
  obtain rfl : index = index' := Decimal.digits_injective hindex
  rfl

/-- Two classes that are named like identifiers of different operators. -/
theorem classes_named_like_identifiers_are_told_apart :
    let id : MutationIdentifier := ⟨⟨"A", "f", "()LB.g()V#abs_load@1;"⟩, "abs_load", 1⟩
    let id' : MutationIdentifier := ⟨⟨"A", "f", "()LB.g()V#abs_store@1;"⟩, "abs_load", 1⟩
    id.Plain ∧ id'.Plain ∧ id.text ≠ id'.text := by
  intro id id'
  have h : id.Plain :=
    ⟨by decide, by decide, ⟨⟨[], .object "B.g()V#abs_load@1"⟩, by decide⟩, by decide +kernel⟩
  have h' : id'.Plain :=
    ⟨by decide, by decide, ⟨⟨[], .object "B.g()V#abs_store@1"⟩, by decide⟩, by decide +kernel⟩
  exact ⟨h, h', fun htext => absurd ((texts_are_unambiguous h h').1 htext) (by decide)⟩

end MutationIdentifier

end BytecodeMutation
