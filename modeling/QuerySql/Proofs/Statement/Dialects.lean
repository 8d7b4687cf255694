import QuerySql.Proofs.Compiler.Realization
import QuerySql.Proofs.Statement.Assembly

namespace QuerySql

open Sql Sql.Fragment

variable {schema : Schema} {dialect : Dialect} {name : String} {query : Query}

theorem FindPlan.attrs_write (plan : FindPlan) (dialect : Dialect) :
    (plan.write dialect).populations.map PopulationTemplate.attr =
      plan.populations.map Population.attr :=
  List.map_map

namespace Compiler

/-- What the compiler of a dialect returns for the criteria of a query. -/
def result (schema : Schema) (dialect : Dialect) (name : String) (query : Query) :
    Except Error WrittenConditions :=
  (of schema dialect name).bind fun compiler => ((compile query).runFrom compiler).1

/-- The compiler looks at the dialect between its checks, but accepts and refuses the same criteria
in all dialects. -/
theorem accepted_result (schema : Schema) (dialect dialect' : Dialect) (name : String)
    (query : Query) :
    (∃ error, result schema dialect name query = .error error ∧
        result schema dialect' name query = .error error) ∨
      ∃ written written', result schema dialect name query = .ok written ∧
        result schema dialect' name query = .ok written' ∧
        written.predicates.length = written'.predicates.length := by
  rw [result, result, compile_eq_conditions, compile_eq_conditions, Statement.conditions,
    Statement.conditions]
  cases schema.require name with
  | error error => exact .inl ⟨error, rfl, rfl⟩
  | ok table =>
      rw [Except.bind, Except.bind]
      cases Conditions.of schema table query with
      | error error => exact .inl ⟨error, rfl, rfl⟩
      | ok conditions =>
          refine .inr ⟨_, _, rfl, rfl, ?_⟩
          rw [conditions.length_write, conditions.length_write]

end Compiler

namespace Statement

/-- In any two dialects a query fails with the same error, or it has as many joins and conditions
and templates for the same associations.  So it is with its criteria alone, which the compiler of
either dialect refuses with the same error or compiles to as many predicates. -/
theorem accepted_find (dialect dialect' : Dialect) :
    ((∃ error, find schema dialect name query = .error error ∧
        find schema dialect' name query = .error error) ∨
      ∃ statement statement' clauses clauses' written written',
        PutTogether schema dialect name query statement clauses written ∧
        PutTogether schema dialect' name query statement' clauses' written' ∧
        clauses.length = clauses'.length ∧
        statement.populations.map PopulationTemplate.attr =
          statement'.populations.map PopulationTemplate.attr ∧
        written.predicates.length = written'.predicates.length) ∧
      ((∃ error, Compiler.result schema dialect name query = .error error ∧
          Compiler.result schema dialect' name query = .error error) ∨
        ∃ written written', Compiler.result schema dialect name query = .ok written ∧
          Compiler.result schema dialect' name query = .ok written' ∧
          written.predicates.length = written'.predicates.length) := by
  refine ⟨?_, Compiler.accepted_result schema dialect dialect' name query⟩
  cases planned : FindPlan.of schema name query with
  | error error =>
      refine .inl ⟨error, ?_, ?_⟩ <;> rw [find, planned] <;> rfl
  | ok plan =>
      refine .inr ⟨_, _, _, _, _, _, FindPlan.putTogether_write planned dialect,
        FindPlan.putTogether_write planned dialect', ?_, ?_, ?_⟩
      · rw [List.length_map, List.length_map]
      · rw [plan.attrs_write, plan.attrs_write]
      · rw [Conditions.length_write, Conditions.length_write]

end Statement

end QuerySql
