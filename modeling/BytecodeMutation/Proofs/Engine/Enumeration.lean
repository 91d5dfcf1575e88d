import BytecodeMutation.Proofs.Engine.Discovery

/-! Discovery written down without its state. The passes of a traversal carry a registry and the
line of the last marker from instruction to instruction; what they list is an enumeration of
operators and instructions, in which the line is looked up among the markers before the instruction
and the number of a site is its position in the enumeration of its method. -/

namespace BytecodeMutation

/-! ### Lines -/

/-- The line that a line marker gives. -/
def Instruction.markedLine? : Instruction → Option UInt32
  | .line n => some n
  | _ => none

/-- The line of the last marker at or before an instruction. -/
def MethodBody.lineAt (m : MethodBody) (index : Nat) : Option UInt32 :=
  ((m.instructions.take (index + 1)).filterMap Instruction.markedLine?).getLast?

theorem lineFrom_eq (line : Option UInt32) (i : Instruction) :
    lineFrom line i = i.markedLine?.or line := by
  cases i <;> rfl

theorem lastLine_eq (line : Option UInt32) (is : List Instruction) :
    lastLine line is = ((is.filterMap Instruction.markedLine?).getLast?).or line := by
  induction is generalizing line with
  | nil => rfl
  | cons i is ih =>
    change lastLine (lineFrom line i) is = _
    rw [ih, lineFrom_eq]
    cases h : i.markedLine? with
    | none => simp [h]
    | some n =>
      cases hlast : (is.filterMap Instruction.markedLine?).getLast? <;>
        simp [h, hlast, List.getLast?_cons]

/-! ### Candidates -/

/-- An operator and the position of an instruction for which it has a replacement. -/
structure Candidate where
  operator : Operator
  index : Nat
  replacement : Replacement

/-- What an operator has for the instructions of a method, in their order. -/
def Operator.candidates (o : Operator) (context : InstructionContext) : List Candidate :=
  context.method.instructions.zipIdx.filterMap fun (i, index) =>
    (o.candidate? context i).map fun r => ⟨o, index, r⟩

namespace Offer

def candidate (f : Offer) : Candidate := ⟨f.operator, f.index, f.replacement⟩

theorem sitesFrom_eq (key : MethodKey) (file : Option String) (n : Nat) (fs : List Offer) :
    sitesFrom key file n fs = (fs.zipIdx n).map fun (f, ordinal) => f.site key file ordinal := by
  induction fs generalizing n with
  | nil => rfl
  | cons f fs ih => rw [sitesFrom, List.zipIdx_cons, List.map_cons, ih]

end Offer

theorem Operator.map_candidate_offersFrom (o : Operator) (context : InstructionContext)
    (index : Nat) (line : Option UInt32) (is : List Instruction) :
    (o.offersFrom context index line is).map Offer.candidate =
      (is.zipIdx index).filterMap fun (i, index) =>
        (o.candidate? context i).map fun r => ⟨o, index, r⟩ := by
  induction is generalizing index line with
  | nil => rfl
  | cons i is ih =>
    rw [offersFrom, List.map_append, ih, List.zipIdx_cons]
    cases h : o.candidate? context i with
    | none => simp [h]
    | some r => simp [h, Offer.candidate]

/-- An offer is made at the line of the last marker at or before its instruction. -/
theorem Operator.line_of_mem_offers {o : Operator} {context : InstructionContext} {f : Offer}
    (hf : f ∈ o.offers context) : f.line = context.method.lineAt f.index := by
  obtain ⟨-, -, before, after, hcode, hindex, hline⟩ := mem_offersFrom.1 hf
  have htake : context.method.instructions.take (f.index + 1) = before ++ [f.old] := by
    have hlength : f.index + 1 = (before ++ [f.old]).length := by
      simp [hindex]
    rw [hlength, hcode, List.append_cons before f.old after, List.take_left]
  rw [hline, lastLine_eq, MethodBody.lineAt, htake, Option.or_none]

namespace MutationEngine

variable (e : MutationEngine)

/-- What the operators of the engine have for a method, operator by operator. -/
def candidates (m : MethodBody) : List Candidate :=
  e.operators.flatMap fun o => o.candidates ⟨m, e.catalog⟩

/-- The sites of a method, numbered in the order of its candidates. -/
def enumerated (u : ClassUnit) (m : MethodBody) : List MutationSite :=
  (e.candidates m).zipIdx.map fun (c, ordinal) =>
    ⟨ordinal, ⟨MethodKey.of u.name m, c.operator.name, c.index⟩, c.operator.category,
      c.replacement.description, ⟨u.sourceFile, m.lineAt c.index⟩⟩

theorem candidates_eq (m : MethodBody) : e.candidates m = (e.offersFor m).map Offer.candidate := by
  rw [candidates, offersFor, allOffers, List.map_flatMap]
  refine List.flatMap_congr fun o _ => ?_
  exact (o.map_candidate_offersFrom ⟨m, e.catalog⟩ 0 none m.instructions).symm

theorem enumerated_eq (u : ClassUnit) (m : MethodBody) : e.enumerated u m = e.sitesOf u m := by
  rw [enumerated, sitesOf, candidates_eq, Offer.sitesFrom_eq, List.zipIdx_map, List.map_map]
  refine List.map_congr_left ?_
  rintro ⟨f, ordinal⟩ hf
  have hoffer : f ∈ e.offersFor m := (List.mem_zipIdx hf).2.2 ▸ List.getElem_mem _
  obtain ⟨o, -, hfo⟩ := List.mem_flatMap.1 hoffer
  have hline := Operator.line_of_mem_offers hfo
  simp only [Function.comp_apply, Prod.map_apply, id_eq, Offer.candidate, Offer.site,
    Offer.identifier, hline]

/-- Discovery goes through the admitted units in order, through their admitted methods in order,
through the operators in order and through the instructions in order, and lists one site for every
candidate; the sites of a method are numbered from zero. -/
theorem discovery_enumerates_candidates (h : Operator.IsChoice e.operators)
    (units : List ClassUnit) :
    e.discover units = .ok ((units.filter fun u => e.policy.admitsClass u.name).flatMap fun u =>
      (u.methods.filter fun m => e.policy.admitsMethod m.name).flatMap fun m =>
        e.enumerated u m) := by
  rw [discover_eq h.nodup, admittedMethods, List.flatMap_assoc]
  simp only [List.flatMap_map, enumerated_eq]

end MutationEngine

namespace Sample

/-- Two operations, of which the second has a line. -/
def mixed : MethodBody :=
  ⟨"mixed", ⟨[.int], .int⟩, true, 2, 1, [.load .int 0, .load .int 0, .arith .add .int, .line 9,
    .load .int 0, .arith .mul .int, .valueReturn .int]⟩

/-- Drops operands in one class, and leaves one method of it alone. -/
def dropping : MutationEngine :=
  ⟨⟨fun name => name == "A", fun name => name != "spared"⟩,
    [.elimination .first, .elimination .last], none⟩

end Sample

open Sample in
/-- The second pass has no line for the first operation again, and goes on counting. -/
theorem mixed_is_enumerated :
    Operator.IsChoice dropping.operators ∧
      dropping.discover [⟨"B", none, [mixed]⟩, ⟨"A", some "A.java",
        [{ mixed with name := "spared" }, mixed]⟩] =
        .ok [⟨0, ⟨⟨"A", "mixed", "(I)I"⟩, "aod_first", 2⟩, .operandElimination,
            "Removed first operand of iadd (int)", ⟨some "A.java", none⟩⟩,
          ⟨1, ⟨⟨"A", "mixed", "(I)I"⟩, "aod_first", 5⟩, .operandElimination,
            "Removed first operand of imul (int)", ⟨some "A.java", some 9⟩⟩,
          ⟨2, ⟨⟨"A", "mixed", "(I)I"⟩, "aod_last", 2⟩, .operandElimination,
            "Removed second operand of iadd (int)", ⟨some "A.java", none⟩⟩,
          ⟨3, ⟨⟨"A", "mixed", "(I)I"⟩, "aod_last", 5⟩, .operandElimination,
            "Removed second operand of imul (int)", ⟨some "A.java", some 9⟩⟩] := by
  have hchoice : Operator.IsChoice dropping.operators :=
    .inr ⟨["aod"], toOption_eq_some.1 (by decide +kernel)⟩
  have henumerated := dropping.discovery_enumerates_candidates hchoice
    [⟨"B", none, [mixed]⟩, ⟨"A", some "A.java", [{ mixed with name := "spared" }, mixed]⟩]
  refine ⟨hchoice, henumerated.trans (congrArg Except.ok ?_)⟩
  decide +kernel

end BytecodeMutation
