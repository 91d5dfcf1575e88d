import BytecodeMutation.ClassUnit.Json
import BytecodeMutation.Proofs.Instruction.RoundTrip

/-! Class units are read back from their JSON text, as long as they hold no floating-point constant
and every descriptor in them is the descriptor of some text. A unit that was read meets the second
condition. -/

namespace BytecodeMutation

open Json (Encodes text)

namespace MethodBody

/-- Whether the descriptors of a method and of what its code refers to can be read. -/
structure DescriptorsRead (m : MethodBody) : Prop where
  descriptor : m.descriptor.IsRead
  instructions : ∀ i ∈ m.instructions, i.DescriptorRead

/-- Whether no instruction of a method holds a floating-point constant. -/
def IsFloatFree (m : MethodBody) : Prop := ∀ i ∈ m.instructions, i.isFloat = false

theorem encodes {m : MethodBody} (hfloat : m.IsFloatFree) (h : m.DescriptorsRead)
    (w : FloatWriter) : Encodes Json.methodBody? m (m.toJson w) := by
  have hcode := Json.encodes_list fun i hi => Instruction.encodes (hfloat i hi)
    (h.instructions i hi) w
  constructor
  · refine Json.isWritten_record ?_
    simp only [List.forall_mem_cons]
    exact ⟨.string _, .string _, .bool _, Json.isWritten_int _, Json.isWritten_int _,
      hcode.written, nofun⟩
  · have hfields : (m.toJson w).fields?
        ["name", "descriptor", "is_static", "max_stack", "max_locals", "instructions"] =
          some [some (text m.name), some (text m.descriptor.text), some (.bool m.isStatic),
            some (.nat m.maxStack.toNat), some (.nat m.maxLocals.toNat),
            some (.array (m.instructions.map (·.toJson w)))] := Json.fields?_record rfl (by decide)
    simp only [Json.methodBody?, hfields, Option.bind_eq_bind, Option.bind_some, hcode.read,
      h.descriptor.encodes.read, (Json.encodes_text _).read, (Json.encodes_bool _).read,
      (Json.encodes_uint16 _).read]

theorem descriptorsRead_of_json {j : Json} {m : MethodBody} (h : j.methodBody? = some m) :
    m.DescriptorsRead := by
  simp only [Json.methodBody?, Option.bind_eq_bind, Option.bind_eq_some_iff] at h
  obtain ⟨fields, -, h⟩ := h
  split at h
  · -- the static mark may be absent
    split at h
    all_goals
      simp only [Option.bind_eq_some_iff, Option.some.injEq] at h
      obtain ⟨_, -, _, -, d, hd, _, -, _, -, code, hcode, rfl⟩ := h
      refine ⟨Json.isRead_of_descriptor? hd, fun i hi => ?_⟩
      obtain ⟨k, hk⟩ := Json.exists_item_of_listOf? hcode i hi
      exact Instruction.descriptorRead_of_json hk
  · cases h

end MethodBody

namespace ClassUnit

/-- Whether all descriptors in a unit can be read. -/
def DescriptorsRead (u : ClassUnit) : Prop := ∀ m ∈ u.methods, m.DescriptorsRead

/-- Whether a unit holds no floating-point constant. -/
def IsFloatFree (u : ClassUnit) : Prop := ∀ m ∈ u.methods, m.IsFloatFree

theorem optionalText?_orNull (s : Option String) :
    Json.optionalText? (some (.orNull (s.map text))) = some s := by
  cases s <;> rfl

theorem encodes {u : ClassUnit} (hfloat : u.IsFloatFree) (h : u.DescriptorsRead)
    (w : FloatWriter) : Encodes Json.classUnit? u (u.toJson w) := by
  have hmethods := Json.encodes_list fun m hm => MethodBody.encodes (hfloat m hm) (h m hm) w
  constructor
  · refine Json.isWritten_record ?_
    simp only [List.forall_mem_cons]
    refine ⟨.string _, ?_, hmethods.written, nofun⟩
    cases u.sourceFile with
    | none => exact .null
    | some s => exact .string _
  · have hfields : (u.toJson w).fields? ["name", "source_file", "methods"] =
        some [some (text u.name), some (.orNull (u.sourceFile.map text)),
          some (.array (u.methods.map (·.toJson w)))] := Json.fields?_record rfl (by decide)
    simp only [Json.classUnit?, hfields, Option.bind_eq_bind, Option.bind_some, hmethods.read,
      optionalText?_orNull, (Json.encodes_text _).read]

/-- A unit is read back from its text. -/
theorem ofText?_toText {u : ClassUnit} (hfloat : u.IsFloatFree) (h : u.DescriptorsRead) :
    ofText? u.toText = some u :=
  (encodes hfloat h .number).read?_pretty

theorem descriptorsRead_of_ofText? {s : String} {u : ClassUnit} (h : ofText? s = some u) :
    u.DescriptorsRead := by
  obtain ⟨j, -, h⟩ := Option.bind_eq_some_iff.1 h
  simp only [Json.classUnit?, Option.bind_eq_bind, Option.bind_eq_some_iff] at h
  obtain ⟨fields, -, h⟩ := h
  split at h
  · simp only [Option.bind_eq_some_iff, Option.some.injEq] at h
    obtain ⟨_, -, _, -, methods, hmethods, rfl⟩ := h
    intro m hm
    obtain ⟨k, hk⟩ := Json.exists_item_of_listOf? hmethods m hm
    exact MethodBody.descriptorsRead_of_json hk
  · cases h

end ClassUnit

end BytecodeMutation
