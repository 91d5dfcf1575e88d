import BytecodeMutation.Operator.Selection
import Mathlib.Data.List.Nodup

/-! Operators and their names. The list of all operators misses none and names each differently, so
that an operator can be told from its name, and every choice of operators names each once. -/

namespace BytecodeMutation

theorem ArithmeticOp.mem_all (op : ArithmeticOp) : op ∈ all := by
  cases op <;> decide

theorem BitwiseOp.mem_all (op : BitwiseOp) : op ∈ all := by
  cases op <;> decide

theorem Condition.mem_all (c : Condition) : c ∈ all := by
  cases c <;> decide

theorem Substitution.mem_all (s : Substitution) : s ∈ all := by
  cases s with
  | arithmetic op t => cases op <;> cases t <;> decide
  | bitwise op => cases op <;> decide
  | relational c => cases c <;> decide
  | dynamicArithmetic op => cases op <;> decide
  | dynamicRelational c => cases c <;> decide

namespace Operator

theorem mem_all (o : Operator) : o ∈ all := by
  cases o with
  | substitution s =>
    have hs := List.mem_map_of_mem (f := substitution) s.mem_all
    simp only [all, List.mem_append]
    exact .inl (.inl (.inl (.inl hs)))
  | elimination removed => cases removed <;> decide
  | perturbation p => cases p <;> decide
  | unaryStep s => cases s <;> decide
  | redirection mode => cases mode <;> decide

theorem nodup_names_all : (all.map name).Nodup := by decide +kernel

theorem nodup_all : all.Nodup := List.Nodup.of_map name nodup_names_all

theorem name_injective {o o' : Operator} (h : o.name = o'.name) : o = o' :=
  List.inj_on_of_nodup_map nodup_names_all o.mem_all o'.mem_all h

theorem isEnabled_iff {chosen : List Operator} {name : String} :
    isEnabled chosen name = true ↔ ∃ o ∈ chosen, name = o.name := by
  rw [isEnabled, List.any_eq_true]
  exact exists_congr fun o => and_congr_right fun _ => by rw [beq_iff_eq, eq_comm]

theorem isEnabled_name_iff {chosen : List Operator} {o : Operator} :
    isEnabled chosen o.name = true ↔ o ∈ chosen := by
  rw [isEnabled_iff]
  exact ⟨fun ⟨o', ho', hname⟩ => name_injective hname ▸ ho', fun h => ⟨o, h, rfl⟩⟩

/-- The lists of operators that an engine may be given: all of them, or a choice by names. -/
def IsChoice (operators : List Operator) : Prop :=
  operators = all ∨ ∃ names, select names = .ok operators

theorem IsChoice.nodup {operators : List Operator} (h : IsChoice operators) :
    operators.Nodup := by
  rcases h with rfl | ⟨names, h⟩
  · exact nodup_all
  · unfold select at h
    split at h
    · cases h
    · obtain rfl := Except.ok.inj h
      exact nodup_all.filter _

end Operator

end BytecodeMutation
