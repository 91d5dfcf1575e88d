import BytecodeMutation.Proofs.Descriptor.RoundTrip
import BytecodeMutation.Proofs.Json.Fields

/-! Instructions are read back from their JSON form. Two things can be lost: a floating-point
constant, which is written in decimal, and a descriptor that is not the descriptor of any text, such
as one with a void parameter. An instruction without either is encoded by its JSON form, and what
was read from JSON has no such descriptor. -/

namespace BytecodeMutation

open Json (Encodes tagged text)

/-! ### Names without operands -/

theorem NumericType.encodes (t : NumericType) : Encodes Json.numericType? t (text t.tag) :=
  Json.encodes_tag t (by cases t <;> rfl)

theorem IntegerType.encodes (t : IntegerType) : Encodes Json.integerType? t (text t.tag) :=
  Json.encodes_tag t (by cases t <;> rfl)

theorem LocalType.encodes (t : LocalType) : Encodes Json.localType? t (text t.tag) :=
  Json.encodes_tag t (by cases t <;> rfl)

theorem ArithmeticOp.encodes (op : ArithmeticOp) : Encodes Json.arithmeticOp? op (text op.tag) :=
  Json.encodes_tag op (by cases op <;> rfl)

theorem BitwiseOp.encodes (op : BitwiseOp) : Encodes Json.bitwiseOp? op (text op.tag) :=
  Json.encodes_tag op (by cases op <;> rfl)

theorem ShiftOp.encodes (op : ShiftOp) : Encodes Json.shiftOp? op (text op.tag) :=
  Json.encodes_tag op (by cases op <;> rfl)

theorem CompareOp.encodes (op : CompareOp) : Encodes Json.compareOp? op (text op.tag) :=
  Json.encodes_tag op (by cases op <;> rfl)

theorem Condition.encodes (c : Condition) : Encodes Json.condition? c (text c.tag) :=
  Json.encodes_tag c (by cases c <;> rfl)

theorem CallKind.encodes (k : CallKind) : Encodes Json.callKind? k (text k.tag) :=
  Json.encodes_tag k (by cases k <;> rfl)

/-! ### References -/

theorem MethodDescriptor.IsRead.encodes {d : MethodDescriptor} (h : d.IsRead) :
    Encodes Json.descriptor? d (Json.text d.text) :=
  ⟨.string _, h.ofText?_text⟩

theorem ValueType.IsRead.encodes {t : ValueType} (h : t.IsRead) :
    Encodes Json.valueType? t (Json.text t.text) :=
  ⟨.string _, h.ofText?_text⟩

theorem MethodRef.encodes {m : MethodRef} (h : m.descriptor.IsRead) :
    Encodes Json.methodRef? m m.toJson := by
  constructor
  · refine Json.isWritten_record ?_
    simp only [List.forall_mem_cons]
    exact ⟨.string _, .string _, .string _, .string _, nofun⟩
  · have hfields : m.toJson.fields? ["kind", "owner", "name", "descriptor"] =
        some [some (.text m.kind.tag), some (.text m.owner), some (.text m.name),
          some (.text m.descriptor.text)] := Json.fields?_record rfl (by decide)
    simp only [Json.methodRef?, hfields, Option.bind_eq_bind, Option.bind_some,
      m.kind.encodes.read, h.encodes.read, (Json.encodes_text _).read]

theorem FieldRef.encodes {f : FieldRef} (h : f.descriptor.IsRead) :
    Encodes Json.fieldRef? f f.toJson := by
  constructor
  · refine Json.isWritten_record ?_
    simp only [List.forall_mem_cons]
    exact ⟨.string _, .string _, .string _, nofun⟩
  · have hfields : f.toJson.fields? ["owner", "name", "descriptor"] =
        some [some (.text f.owner), some (.text f.name), some (.text f.descriptor.text)] :=
      Json.fields?_record rfl (by decide)
    simp only [Json.fieldRef?, hfields, Option.bind_eq_bind, Option.bind_some, h.encodes.read,
      (Json.encodes_text _).read]

/-! ### Constants -/

/-- Whether a constant is a floating-point number. -/
def Constant.isFloat : Constant → Bool
  | float _ | double _ => true
  | _ => false

theorem Json.isWritten_tagged {j : Json} (h : j.IsWritten) (key : String) :
    (tagged key j).IsWritten :=
  isWritten_record fun m hm => by rwa [List.mem_singleton.1 hm]

theorem Constant.encodes {c : Constant} (h : c.isFloat = false) (w : FloatWriter) :
    Encodes Json.constant? c (c.toJson w) := by
  cases c with
  | int v =>
    have hv := (Json.encodes_int32 v).map Constant.int
    exact ⟨Json.isWritten_tagged hv.written _, hv.read⟩
  | long v =>
    have hv := (Json.encodes_int64 v).map Constant.long
    exact ⟨Json.isWritten_tagged hv.written _, hv.read⟩
  | float v => cases h
  | double v => cases h
  | string s => exact ⟨Json.isWritten_tagged (.string _) _, rfl⟩
  | classOf name => exact ⟨Json.isWritten_tagged (.string _) _, rfl⟩

/-! ### Instructions -/

namespace Instruction

/-- Whether an instruction holds a floating-point constant. -/
def isFloat : Instruction → Bool
  | floatConst _ | doubleConst _ => true
  | loadConst c => c.isFloat
  | _ => false

/-- Whether the descriptor of the called method or the accessed field, if there is one, can be
read. -/
def DescriptorRead : Instruction → Prop
  | invoke m => m.descriptor.IsRead
  | getField f | putField f | getStatic f | putStatic f => f.descriptor.IsRead
  | _ => True

theorem encodes_plain {name : String} {i : Instruction}
    (h : Json.plainInstruction? name = some i) : Encodes Json.instruction? i (text name) :=
  ⟨.string _, h⟩

/-- An instruction under its name, read from its operands by `f`. -/
theorem encodes_operand {α : Type} {read? : Json → Option α} {a : α} {j : Json} {name : String}
    (f : α → Instruction) (h : Encodes read? a j) (hplain : Json.plainInstruction? name = none)
    (hread : Json.operandInstruction? name j = (read? j).map f) :
    Encodes Json.instruction? (f a) (tagged name j) := by
  refine ⟨Json.isWritten_tagged h.written name, ?_⟩
  have hchoice : (tagged name j).choice? = some (name, some j) := rfl
  simp only [Json.instruction?, hchoice, Option.bind_eq_bind, Option.bind_some, hplain, hread,
    h.read, Option.map_some]

/-- An instruction of two operands. -/
theorem encodes_pair {α β : Type} {a? : Json → Option α} {b? : Json → Option β} {a : α} {b : β}
    {j k : Json} {name : String} (f : α → β → Instruction) (ha : Encodes a? a j)
    (hb : Encodes b? b k) (hplain : Json.plainInstruction? name = none)
    (hread : Json.operandInstruction? name (.array [j, k]) =
      (Json.both? a? b? (.array [j, k])).map fun (a, b) => f a b) :
    Encodes Json.instruction? (f a b) (tagged name (.array [j, k])) :=
  encodes_operand (fun (a, b) => f a b) (ha.both hb) hplain hread

/-- An instruction is read back from its JSON form unless it holds a floating-point constant. -/
theorem encodes {i : Instruction} (hfloat : i.isFloat = false) (h : i.DescriptorRead)
    (w : FloatWriter) : Encodes Json.instruction? i (i.toJson w) := by
  cases i with
  | nop | nullConst | pop | pop2 | dup | dupX1 | dupX2 | dup2 | dup2X1 | dup2X2 | swap
  | arrayLength | athrow | ret => exact encodes_plain rfl
  | intConst v => exact encodes_operand intConst (Json.encodes_int32 v) rfl rfl
  | longConst v => exact encodes_operand longConst (Json.encodes_int64 v) rfl rfl
  | floatConst v => cases hfloat
  | doubleConst v => cases hfloat
  | bytePush v => exact encodes_operand bytePush (Json.encodes_int8 v) rfl rfl
  | shortPush v => exact encodes_operand shortPush (Json.encodes_int16 v) rfl rfl
  | loadConst c => exact encodes_operand loadConst (Constant.encodes hfloat w) rfl rfl
  | load t index => exact encodes_pair load t.encodes (Json.encodes_uint16 index) rfl rfl
  | store t index => exact encodes_pair store t.encodes (Json.encodes_uint16 index) rfl rfl
  | increment index delta =>
    exact encodes_pair increment (Json.encodes_uint16 index) (Json.encodes_int16 delta) rfl rfl
  | arith op t => exact encodes_pair arith op.encodes t.encodes rfl rfl
  | neg t => exact encodes_operand neg t.encodes rfl rfl
  | bitwise op t => exact encodes_pair bitwise op.encodes t.encodes rfl rfl
  | shift op t => exact encodes_pair shift op.encodes t.encodes rfl rfl
  | convert source target => exact encodes_pair convert source.encodes target.encodes rfl rfl
  | compare op => exact encodes_operand compare op.encodes rfl rfl
  | ifZero c target => exact encodes_pair ifZero c.encodes (Json.encodes_uint32 target) rfl rfl
  | ifCompare c target =>
    exact encodes_pair ifCompare c.encodes (Json.encodes_uint32 target) rfl rfl
  | ifSame c target => exact encodes_pair ifSame c.encodes (Json.encodes_uint32 target) rfl rfl
  | ifNull target => exact encodes_operand ifNull (Json.encodes_uint32 target) rfl rfl
  | ifNonNull target => exact encodes_operand ifNonNull (Json.encodes_uint32 target) rfl rfl
  | goto target => exact encodes_operand goto (Json.encodes_uint32 target) rfl rfl
  | invoke m => exact encodes_operand invoke (MethodRef.encodes h) rfl rfl
  | getField f => exact encodes_operand getField (FieldRef.encodes h) rfl rfl
  | putField f => exact encodes_operand putField (FieldRef.encodes h) rfl rfl
  | getStatic f => exact encodes_operand getStatic (FieldRef.encodes h) rfl rfl
  | putStatic f => exact encodes_operand putStatic (FieldRef.encodes h) rfl rfl
  | new className => exact encodes_operand new (Json.encodes_text className) rfl rfl
  | checkCast className => exact encodes_operand checkCast (Json.encodes_text className) rfl rfl
  | instanceOf className => exact encodes_operand instanceOf (Json.encodes_text className) rfl rfl
  | valueReturn t => exact encodes_operand valueReturn t.encodes rfl rfl
  | label n => exact encodes_operand label (Json.encodes_uint32 n) rfl rfl
  | line n => exact encodes_operand line (Json.encodes_uint32 n) rfl rfl

end Instruction

/-! ### Descriptors that were read -/

theorem Json.isRead_of_descriptor? {j : Json} {d : MethodDescriptor} (h : j.descriptor? = some d) :
    d.IsRead := by
  obtain ⟨s, -, hs⟩ := Option.bind_eq_some_iff.1 h
  exact ⟨s, hs⟩

theorem Json.isRead_of_valueType? {j : Json} {t : ValueType} (h : j.valueType? = some t) :
    t.IsRead := by
  obtain ⟨s, -, hs⟩ := Option.bind_eq_some_iff.1 h
  exact ⟨s, hs⟩

theorem Json.isRead_of_methodRef? {j : Json} {m : MethodRef} (h : j.methodRef? = some m) :
    m.descriptor.IsRead := by
  simp only [methodRef?, Option.bind_eq_bind, Option.bind_eq_some_iff] at h
  obtain ⟨fields, -, h⟩ := h
  split at h
  · simp only [Option.bind_eq_some_iff, Option.some.injEq] at h
    obtain ⟨_, -, _, -, _, -, d, hd, rfl⟩ := h
    exact isRead_of_descriptor? hd
  · cases h

theorem Json.isRead_of_fieldRef? {j : Json} {f : FieldRef} (h : j.fieldRef? = some f) :
    f.descriptor.IsRead := by
  simp only [fieldRef?, Option.bind_eq_bind, Option.bind_eq_some_iff] at h
  obtain ⟨fields, -, h⟩ := h
  split at h
  · simp only [Option.bind_eq_some_iff, Option.some.injEq] at h
    obtain ⟨_, -, _, -, t, ht, rfl⟩ := h
    exact isRead_of_valueType? ht
  · cases h

namespace Instruction

theorem descriptorRead_of_plain {name : String} {i : Instruction}
    (h : Json.plainInstruction? name = some i) : i.DescriptorRead := by
  unfold Json.plainInstruction? at h
  split at h
  case h_15 => cases h
  all_goals
    obtain rfl := Option.some.inj h
    exact True.intro

theorem descriptorRead_of_operand {name : String} {v : Json} {i : Instruction}
    (h : Json.operandInstruction? name v = some i) : i.DescriptorRead := by
  unfold Json.operandInstruction? at h
  split at h
  case h_34 => cases h
  case h_23 =>
    obtain ⟨m, hm, rfl⟩ := Option.map_eq_some_iff.1 h
    exact Json.isRead_of_methodRef? hm
  case h_24 | h_25 | h_26 | h_27 =>
    obtain ⟨f, hf, rfl⟩ := Option.map_eq_some_iff.1 h
    exact Json.isRead_of_fieldRef? hf
  all_goals
    obtain ⟨_, -, rfl⟩ := Option.map_eq_some_iff.1 h
    exact True.intro

/-- What is read from JSON has a descriptor that can be read. -/
theorem descriptorRead_of_json {j : Json} {i : Instruction} (h : j.instruction? = some i) :
    i.DescriptorRead := by
  simp only [Json.instruction?, Option.bind_eq_bind, Option.bind_eq_some_iff] at h
  obtain ⟨choice, -, h⟩ := h
  split at h
  · exact descriptorRead_of_plain h
  · rename_i name v
    split at h
    · obtain rfl := Option.some.inj h
      exact descriptorRead_of_plain ‹_›
    · cases h
    · exact descriptorRead_of_operand h

end Instruction

end BytecodeMutation
