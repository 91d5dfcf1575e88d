import BytecodeMutation.Proofs.Descriptor.Grammar

/-! A descriptor that was read has one text only, and that text is read back as the descriptor. -/

namespace BytecodeMutation

namespace ValueType

/-- Whether some text is read as the type. -/
def IsRead (t : ValueType) : Prop := ∃ s, ofText? s = some t

theorem isRead_iff_wellFormed {t : ValueType} : t.IsRead ↔ t.WellFormed := by
  constructor
  · rintro ⟨s, hs⟩
    exact (ofText?_eq_some_iff.1 hs).1
  · intro h
    exact ⟨t.text, ofText?_eq_some_iff.2 ⟨h, rfl⟩⟩

theorem IsRead.ofText?_text {t : ValueType} (h : t.IsRead) : ofText? t.text = some t :=
  ofText?_eq_some_iff.2 ⟨isRead_iff_wellFormed.1 h, rfl⟩

end ValueType

namespace MethodDescriptor

/-- Whether some text is read as the descriptor. -/
def IsRead (d : MethodDescriptor) : Prop := ∃ s, ofText? s = some d

theorem isRead_iff_wellFormed {d : MethodDescriptor} : d.IsRead ↔ d.WellFormed := by
  constructor
  · rintro ⟨s, hs⟩
    exact (ofText?_eq_some_iff.1 hs).1
  · intro h
    exact ⟨d.text, ofText?_eq_some_iff.2 ⟨h, rfl⟩⟩

theorem IsRead.ofText?_text {d : MethodDescriptor} (h : d.IsRead) : ofText? d.text = some d :=
  ofText?_eq_some_iff.2 ⟨isRead_iff_wellFormed.1 h, rfl⟩

theorem IsRead.void_notMem_params {d : MethodDescriptor} (h : d.IsRead) :
    ValueType.void ∉ d.params := fun hmem =>
  ((isRead_iff_wellFormed.1 h).params .void hmem).1 rfl

theorem IsRead.text_inj {d e : MethodDescriptor} (hd : d.IsRead) (he : e.IsRead)
    (h : d.text = e.text) : d = e :=
  text_injOn (isRead_iff_wellFormed.1 hd) (isRead_iff_wellFormed.1 he) h

end MethodDescriptor

end BytecodeMutation
