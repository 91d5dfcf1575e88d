import BytecodeMutation.Descriptor.Basic

/-! The written form of value types and method descriptors, `(IJLjava/lang/String;)V`: a letter for
a primitive type, `L` name `;` for a class, `[` before an element type, and the parameters in
parentheses before the return type. Reading takes the whole text and refuses void parameters, void
elements and empty class names. -/

namespace BytecodeMutation

namespace ValueType

def toChars : ValueType → List Char
  | boolean => ['Z']
  | byte => ['B']
  | char => ['C']
  | short => ['S']
  | int => ['I']
  | long => ['J']
  | float => ['F']
  | double => ['D']
  | object className => 'L' :: className.toList ++ [';']
  | array element => '[' :: element.toChars
  | void => ['V']

def text (t : ValueType) : String := String.ofList t.toChars

/-- Reads one type at the front of the text and returns it with what follows. -/
def read? : List Char → Option (ValueType × List Char)
  | 'Z' :: rest => some (boolean, rest)
  | 'B' :: rest => some (byte, rest)
  | 'C' :: rest => some (char, rest)
  | 'S' :: rest => some (short, rest)
  | 'I' :: rest => some (int, rest)
  | 'J' :: rest => some (long, rest)
  | 'F' :: rest => some (float, rest)
  | 'D' :: rest => some (double, rest)
  | 'V' :: rest => some (void, rest)
  | 'L' :: rest =>
    let className := rest.takeWhile (· != ';')
    match rest.dropWhile (· != ';') with
    | [] => none
    | _ :: rest => if className.isEmpty then none else some (object (String.ofList className), rest)
  | '[' :: rest =>
    match read? rest with
    | some (void, _) => none
    | some (element, rest) => some (array element, rest)
    | none => none
  | _ => none

theorem length_lt_of_read? {cs rest : List Char} {t : ValueType} (h : read? cs = some (t, rest)) :
    rest.length < cs.length := by
  induction cs generalizing t rest with
  | nil => simp [read?] at h
  | cons c cs ih =>
    unfold read? at h
    split at h <;> try (simp_all; done)
    case h_10 =>
      rename_i rest' heq
      obtain ⟨-, rfl⟩ := List.cons.inj heq
      dsimp only at h
      split at h
      · simp at h
      · rename_i d r hd
        split at h
        · simp at h
        · obtain ⟨-, rfl⟩ := Prod.mk.inj (Option.some.inj h)
          have : (cs.dropWhile (· != ';')).length ≤ cs.length :=
            (List.dropWhile_sublist _).length_le
          rw [hd] at this
          simp at this ⊢
          omega
    case h_11 =>
      rename_i rest' heq
      obtain ⟨-, rfl⟩ := List.cons.inj heq
      split at h
      · simp at h
      · rename_i element r _ hr
        obtain ⟨-, rfl⟩ := Prod.mk.inj (Option.some.inj h)
        have := ih hr
        simp
        omega
      · simp at h

/-- Reads a type from a whole text. -/
def ofText? (s : String) : Option ValueType :=
  match read? s.toList with
  | some (t, []) => some t
  | _ => none

end ValueType

namespace MethodDescriptor

def toChars (d : MethodDescriptor) : List Char :=
  '(' :: d.params.flatMap ValueType.toChars ++ ')' :: d.ret.toChars

def text (d : MethodDescriptor) : String := String.ofList d.toChars

/-- Reads parameter types up to the closing parenthesis. -/
def readParams? (cs : List Char) : Option (List ValueType × List Char) :=
  match cs with
  | ')' :: rest => some ([], rest)
  | cs =>
    match _h : ValueType.read? cs with
    | none => none
    | some (.void, _) => none
    | some (t, rest) => (readParams? rest).map fun (ts, rest) => (t :: ts, rest)
termination_by cs.length
decreasing_by exact ValueType.length_lt_of_read? _h

/-- Reads a descriptor from a whole text. -/
def ofText? (s : String) : Option MethodDescriptor :=
  match s.toList with
  | '(' :: rest =>
    match readParams? rest with
    | none => none
    | some (params, rest) =>
      match ValueType.read? rest with
      | some (ret, []) => some ⟨params, ret⟩
      | _ => none
  | _ => none

end MethodDescriptor

end BytecodeMutation
