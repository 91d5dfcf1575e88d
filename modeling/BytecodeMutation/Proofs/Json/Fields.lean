import BytecodeMutation.Instruction.Json
import BytecodeMutation.Proofs.Json.RoundTrip

/-! Values that are written as JSON and read back from it. A value encodes something if it can be
read from its text and the reader of such things finds it there; the encoding of a record or a list
comes from those of its parts. -/

namespace BytecodeMutation.Json

variable {α β : Type}

/-- Whether the value stands for `a` and survives being written and read. -/
structure Encodes (read? : Json → Option α) (a : α) (j : Json) : Prop where
  written : j.IsWritten
  read : read? j = some a

/-- What is encoded comes back from the text. -/
theorem Encodes.read?_pretty {read? : Json → Option α} {a : α} {j : Json}
    (h : Encodes read? a j) : (Json.read? j.pretty).bind read? = some a := by
  rw [Json.read?_pretty h.written, Option.bind_some, h.read]

theorem Encodes.map {read? : Json → Option α} {a : α} {j : Json} (h : Encodes read? a j)
    (f : α → β) : Encodes (fun j => (read? j).map f) (f a) j :=
  ⟨h.written, by rw [h.read, Option.map_some]⟩

/-! ### Texts and truth values -/

theorem encodes_text (s : String) : Encodes text? s (text s) := ⟨.string _, rfl⟩

theorem encodes_bool (b : Bool) : Encodes bool? b (bool b) := ⟨.bool b, rfl⟩

theorem encodes_tag {all : List α} {tag : α → String} (a : α)
    (h : (all.find? fun x => tag x == tag a) = some a) : Encodes (tag? all tag) a (text (tag a)) :=
  ⟨.string _, h⟩

/-! ### Numbers -/

theorem Numeral.int?_ofInt (n : Int) : (Numeral.ofInt n).int? = some n := by
  simp only [int?, ofInt, List.isEmpty_nil, Bool.and_self, if_true, Decimal.value_digits,
    decide_eq_true_eq]
  split
  · rw [if_neg (by omega)]
    congr 1
    omega
  · congr 1
    omega

theorem isWritten_int (n : Int) : (int n).IsWritten := .number (Numeral.isWritten_ofInt n)

theorem encodes_intIn {n least greatest : Int} (h : least ≤ n) (h' : n ≤ greatest) :
    Encodes (intIn? least greatest) n (int n) :=
  ⟨isWritten_int n, by
    rw [int, intIn?, Numeral.int?_ofInt, Option.filter_some, if_pos (by simp [h, h'])]⟩

theorem encodes_natBelow {n bound : Nat} (h : n < bound) :
    Encodes (natBelow? bound) n (nat n) := by
  have hint : Encodes (intIn? 0 (bound - 1)) n (nat n) := encodes_intIn (by omega) (by omega)
  exact hint.map Int.toNat

/-- A fixed-width number is encoded by its value. -/
theorem Encodes.narrow {read? : Json → Option β} {b : β} {j : Json} {narrow : β → α} {a : α}
    (h : Encodes read? b j) (hback : narrow b = a) : Encodes (fun j => (read? j).map narrow) a j :=
  hback ▸ h.map narrow

theorem encodes_int8 (v : Int8) : Encodes int8? v (int v.toInt) :=
  (encodes_intIn v.le_toInt (Int.le_sub_one_of_lt v.toInt_lt)).narrow v.ofInt_toInt

theorem encodes_int16 (v : Int16) : Encodes int16? v (int v.toInt) :=
  (encodes_intIn v.le_toInt (Int.le_sub_one_of_lt v.toInt_lt)).narrow v.ofInt_toInt

theorem encodes_int32 (v : Int32) : Encodes int32? v (int v.toInt) :=
  (encodes_intIn v.le_toInt (Int.le_sub_one_of_lt v.toInt_lt)).narrow v.ofInt_toInt

theorem encodes_int64 (v : Int64) : Encodes int64? v (int v.toInt) :=
  (encodes_intIn v.le_toInt (Int.le_sub_one_of_lt v.toInt_lt)).narrow v.ofInt_toInt

theorem encodes_uint16 (v : UInt16) : Encodes uint16? v (nat v.toNat) :=
  (encodes_natBelow v.toNat_lt).narrow UInt16.ofNat_toNat

theorem encodes_uint32 (v : UInt32) : Encodes uint32? v (nat v.toNat) :=
  (encodes_natBelow v.toNat_lt).narrow UInt32.ofNat_toNat

theorem encodes_uint64 (v : UInt64) : Encodes uint64? v (nat v.toNat) :=
  (encodes_natBelow v.toNat_lt).narrow UInt64.ofNat_toNat

/-! ### Lists -/

theorem mapM_map {γ : Type} {f : γ → α} {g : γ → β} {read? : α → Option β} {cs : List γ}
    (h : ∀ c ∈ cs, read? (f c) = some (g c)) : (cs.map f).mapM read? = some (cs.map g) := by
  induction cs with
  | nil => rfl
  | cons c cs ih =>
    rw [List.map_cons, List.mapM_cons, h c List.mem_cons_self,
      ih fun b hb => h b (List.mem_cons_of_mem c hb)]
    rfl

theorem encodes_list {f : α → Json} {item? : Json → Option α} {as : List α}
    (h : ∀ a ∈ as, Encodes item? a (f a)) :
    Encodes (listOf? item?) as (array (as.map f)) := by
  constructor
  · refine .array fun j hj => ?_
    obtain ⟨a, ha, rfl⟩ := List.mem_map.1 hj
    exact (h a ha).written
  · have hread := mapM_map fun a ha => (h a ha).read
    rwa [List.map_id'] at hread

theorem exists_of_mapM {read? : α → Option β} {as : List α} {bs : List β}
    (h : as.mapM read? = some bs) : ∀ b ∈ bs, ∃ a, read? a = some b := by
  induction as generalizing bs with
  | nil =>
    obtain rfl := Option.some.inj h
    exact nofun
  | cons a as ih =>
    rw [List.mapM_cons] at h
    obtain ⟨b, hb, h⟩ := Option.bind_eq_some_iff.1 h
    obtain ⟨bs', hbs, h⟩ := Option.bind_eq_some_iff.1 h
    obtain rfl := Option.some.inj h
    intro c hc
    rcases List.mem_cons.1 hc with rfl | hc
    · exact ⟨a, hb⟩
    · exact ih hbs c hc

/-- Whatever stands in a list that was read was read from one of the items. -/
theorem exists_item_of_listOf? {item? : Json → Option α} {j : Json} {as : List α}
    (h : j.listOf? item? = some as) : ∀ a ∈ as, ∃ k, item? k = some a := by
  obtain ⟨items, -, h⟩ := Option.bind_eq_some_iff.1 h
  exact exists_of_mapM h

theorem Encodes.both {a? : Json → Option α} {b? : Json → Option β} {a : α} {b : β} {j k : Json}
    (ha : Encodes a? a j) (hb : Encodes b? b k) :
    Encodes (both? a? b?) (a, b) (array [j, k]) := by
  constructor
  · refine .array fun i hi => ?_
    rcases List.mem_cons.1 hi with rfl | hi
    · exact ha.written
    · rw [List.mem_singleton.1 hi]
      exact hb.written
  · simp only [both?, pair?, ha.read, hb.read, Option.bind_eq_bind, Option.bind_some]

/-! ### Records -/

theorem isWritten_record {members : List (String × Json)} (h : ∀ m ∈ members, m.2.IsWritten) :
    (record members).IsWritten := by
  refine .object fun m hm => ?_
  obtain ⟨⟨key, j⟩, hj, rfl⟩ := List.mem_map.1 hm
  exact h (key, j) hj

theorem filter_keys {key : String} {j : Json} {members : List (String × Json)}
    (h : (members.map Prod.fst).Nodup) (hm : (key, j) ∈ members) :
    (members.map fun (k, v) => ((some k : Text), v)).filter (fun m => m.1 == some key) =
      [(some key, j)] := by
  induction members with
  | nil => cases hm
  | cons m members ih =>
    obtain ⟨hnot, h⟩ := List.nodup_cons.1 h
    rw [List.map_cons]
    rcases List.mem_cons.1 hm with rfl | hm
    · rw [List.filter_cons_of_pos (by simp), List.filter_eq_nil_iff.2]
      intro n hn heq
      obtain ⟨⟨k, v⟩, hk, rfl⟩ := List.mem_map.1 hn
      obtain rfl : k = key := by simpa using heq
      exact hnot (List.mem_map.2 ⟨(k, v), hk, rfl⟩)
    · have hne : m.1 ≠ key := fun heq => hnot (heq ▸ List.mem_map_of_mem hm)
      rw [List.filter_cons_of_neg (by simpa using hne), ih h hm]

/-- All fields of a record are found under their names. -/
theorem fields?_record {names : List String} {members : List (String × Json)}
    (hnames : members.map Prod.fst = names) (h : names.Nodup) :
    (record members).fields? names = some (members.map fun m => some m.2) := by
  subst hnames
  rw [record, fields?, if_pos (by simp)]
  refine mapM_map fun m hm => ?_
  rw [lookup?, filter_keys h hm]

end BytecodeMutation.Json
