import Mathlib.Logic.Basic
import QuerySql.Proofs.Predicate.Outline
import QuerySql.Proofs.Statement.Placeholders
import QuerySql.Proofs.Statement.Stages

namespace QuerySql

open Sql

namespace Sql.Fragment

variable {dialect : Dialect}

theorem emitAll_masked (parameterized : dialect.parameterized) (bindings bindings' : Bindings)
    (sameNext : bindings.next = bindings'.next)
    (sameLength : bindings.values.length = bindings'.values.length) (fragments : List Fragment) :
    (emitAll dialect bindings (fragments.map masked)).1 = (emitAll dialect bindings' fragments).1 ∧
      (emitAll dialect bindings (fragments.map masked)).2.values.length =
        (emitAll dialect bindings' fragments).2.values.length := by
  -- Emission looks at nothing of the earlier values but the number of the next placeholder.
  induction fragments generalizing bindings bindings' with
  | nil => exact ⟨rfl, sameLength⟩
  | cons fragment rest ih =>
      have sameEmission :
          (fragment.masked.emit dialect bindings).1 = (fragment.emit dialect bindings').1 ∧
            (fragment.masked.emit dialect bindings).2.next =
              (fragment.emit dialect bindings').2.next ∧
            (fragment.masked.emit dialect bindings).2.values.length =
              (fragment.emit dialect bindings').2.values.length := by
        cases fragment <;>
          simp [masked, emit, parameterized, Bindings.bind, sameNext, sameLength]
      obtain ⟨sameText, sameNext, sameLength⟩ := sameEmission
      obtain ⟨sameFollowing, sameCount⟩ := ih _ _ sameNext sameLength
      rw [List.map_cons, emitAll_cons, emitAll_cons]
      exact ⟨congrArg₂ (· ++ ·) sameText sameFollowing, sameCount⟩

def shape (dialect : Dialect) (fragments : List Fragment) : String × Nat :=
  ((emitAll dialect {} fragments).1, (emitAll dialect {} fragments).2.values.length)

theorem shape_masked (parameterized : dialect.parameterized) (fragments : List Fragment) :
    shape dialect (fragments.map masked) = shape dialect fragments := by
  obtain ⟨sameText, sameCount⟩ := emitAll_masked parameterized {} {} rfl rfl fragments
  rw [shape, shape, sameText, sameCount]

end Sql.Fragment

namespace Query

theorem changesCriteria_maskedStage : Stage.ChangesCriteria maskedStage := by
  intro stage
  cases stage
  exact ⟨_, rfl⟩

theorem maskedInstructions_eq_mapStages (instructions : List (String × Instruction)) :
    maskedInstructions instructions = mapStages maskedStage instructions := by
  induction instructions with
  | nil => rfl
  | cons entry rest ih =>
      obtain ⟨attr, ⟨strategy, stages⟩⟩ := entry
      rw [maskedInstructions, ih, maskedInstruction, maskedStages_eq_map]
      rfl

theorem tail_masked (table : Table) (query : Query) :
    Tail.of table query.masked = Tail.of table query := by
  cases query
  rfl

theorem selection_masked (schema : Schema) (table : Table) (query : Query) :
    Selection.of schema table query.masked = Selection.of schema table query := by
  rw [Selection.of, Selection.of, masked_instructions, maskedInstructions_eq_mapStages,
    Selection.allJoinedColumns_mapStages changesCriteria_maskedStage]
  cases query
  rfl

theorem sortedCriteria_masked (child : Table) (stage : Stage) :
    Population.sortedCriteria child (maskedStage stage) =
      (Population.sortedCriteria child stage).masked := by
  have sameCriteria : (maskedStage stage).criteria.getD {} = (stage.criteria.getD {}).masked := by
    rw [criteria_maskedStage]
    cases stage.criteria <;> rfl
  rw [Population.sortedCriteria, Population.sortedCriteria, sameCriteria]
  cases stage.criteria.getD {} with
  | mk filter select sort limit skip groupBy sum average min max instructions loose =>
      cases sort <;> rfl

end Query

namespace Conditions

variable (dialect : Dialect)

def outline (conditions : Conditions) : List (List Fragment) × Tail :=
  (conditions.predicates.map (Predicate.outline dialect), conditions.tail)

theorem outline_of (schema : Schema) (table : Table) (query : Query) :
    (Conditions.of schema table query.masked).map (outline dialect) =
      (Conditions.of schema table query).map (outline dialect) := by
  have sameScope : scope schema table query.masked = scope schema table query := by
    rw [scope, scope, Query.masked_instructions, Query.maskedInstructions_eq_mapStages,
      joinAliases_mapStages Query.changesCriteria_maskedStage]
  rw [Conditions.of, Conditions.of, sameScope, Query.criteria_masked, Query.tail_masked]
  apply map_map_congr (Scope.outline_expandAll dialect _ _)
  intro predicates predicates' same
  rw [outline, outline, same]

end Conditions

namespace Population

variable (dialect : Dialect)

def outline (population : Population) : String × List Fragment :=
  (population.attr, (population.fragments dialect).map Fragment.masked)

theorem masked_conjuncts (predicates : List Predicate) :
    (predicates.flatMap fun predicate =>
        .fixed " AND " :: predicate.fragments dialect).map Fragment.masked =
      (predicates.map (Predicate.outline dialect)).flatMap fun part => .fixed " AND " :: part := by
  rw [List.map_flatMap, List.flatMap_map]
  rfl

theorem outline_congr (attr : String) (columns : List Projected) (table : String)
    (link : Option JunctionLink) (key : ColumnRef) {conditions conditions' : Conditions}
    (same : conditions.outline dialect = conditions'.outline dialect) :
    outline dialect ⟨attr, columns, table, link, key, conditions⟩ =
      outline dialect ⟨attr, columns, table, link, key, conditions'⟩ := by
  obtain ⟨samePredicates, sameTail⟩ := Prod.mk.inj same
  have sameRest :
      (restFragments dialect ⟨attr, columns, table, link, key, conditions⟩).map Fragment.masked =
        (restFragments dialect ⟨attr, columns, table, link, key, conditions'⟩).map
          Fragment.masked := by
    simp only [restFragments, List.map_append, masked_conjuncts, samePredicates, sameTail]
  simp only [outline, fragments, List.map_append, List.map_cons, sameRest]
  rfl

theorem outline_childConditions (schema : Schema) (child : Table) (stage : Stage) :
    (childConditions schema child (Query.maskedStage stage)).map (Conditions.outline dialect) =
      (childConditions schema child stage).map (Conditions.outline dialect) := by
  rw [childConditions, childConditions, Query.sortedCriteria_masked]
  cases schema.require child.name with
  | error error => rfl
  | ok table => exact Conditions.outline_of dialect schema table _

theorem outline_all (schema : Schema) (instructions : List (String × Instruction)) :
    (all schema (Query.maskedInstructions instructions)).map (List.map (outline dialect)) =
      (all schema instructions).map (List.map (outline dialect)) := by
  rw [Query.maskedInstructions_eq_mapStages]
  exact view_all Query.changesCriteria_maskedStage schema (outline_childConditions dialect schema)
    (fun attr columns table link key _ _ => outline_congr dialect attr columns table link key)
    instructions

end Population

def PopulationTemplate.shape (template : PopulationTemplate) : String × String × Nat :=
  (template.attr, template.text, template.values.length)

/-- All that a statement shows but its values, of which only the number is kept. -/
def FindStatement.shape (statement : FindStatement) :
    (String × Nat) × List (String × String × Nat) :=
  ((statement.text, statement.values.length),
    statement.populations.map PopulationTemplate.shape)

namespace FindPlan

variable (dialect : Dialect)

def outline (plan : FindPlan) : List Fragment × List (String × List Fragment) :=
  ((plan.fragments dialect).map Fragment.masked, plan.populations.map (Population.outline dialect))

theorem masked_whereFragments (predicates : List Predicate) :
    (whereFragments dialect predicates).map Fragment.masked =
      if (predicates.map (Predicate.outline dialect)).isEmpty then []
      else
        .fixed "WHERE " :: Predicate.conjunction (predicates.map (Predicate.outline dialect))
          ++ [.fixed " "] := by
  rw [whereFragments, List.isEmpty_map]
  split
  · rfl
  · rw [List.map_append, List.map_cons, Predicate.conjunction, Fragment.masked_separated,
      List.map_map]
    rfl

theorem outline_congr (selection : Selection) (joins : List Join)
    {conditions conditions' : Conditions} {populations populations' : List Population}
    (sameConditions : conditions.outline dialect = conditions'.outline dialect)
    (samePopulations : populations.map (Population.outline dialect) =
      populations'.map (Population.outline dialect)) :
    outline dialect ⟨selection, joins, conditions, populations⟩ =
      outline dialect ⟨selection, joins, conditions', populations'⟩ := by
  obtain ⟨samePredicates, sameTail⟩ := Prod.mk.inj sameConditions
  simp only [outline, fragments, List.map_append, List.map_cons, masked_whereFragments,
    samePredicates, sameTail, samePopulations]

theorem outline_of (schema : Schema) (name : String) (query : Query) :
    (FindPlan.of schema name query.masked).map (outline dialect) =
      (FindPlan.of schema name query).map (outline dialect) := by
  rw [FindPlan.of, FindPlan.of]
  cases schema.require name with
  | error error => rfl
  | ok table =>
      have sameJoins : Join.all schema (Query.maskedInstructions query.instructions) =
          Join.all schema query.instructions := by
        rw [Query.maskedInstructions_eq_mapStages,
          Join.all_mapStages Query.changesCriteria_maskedStage]
      simp only [Except.bind, Query.selection_masked, Query.masked_instructions, sameJoins]
      cases Selection.of schema table query with
      | error error => rfl
      | ok selection =>
          cases Join.all schema query.instructions with
          | error error => rfl
          | ok joins =>
              apply map_bind_congr (Conditions.outline_of dialect schema table query)
              intro conditions conditions' sameConditions
              apply map_map_congr (Population.outline_all dialect schema query.instructions)
              intro populations populations' samePopulations
              exact outline_congr dialect selection joins sameConditions samePopulations

variable {dialect}

theorem shape_write (parameterized : dialect.parameterized) (plan : FindPlan) :
    (plan.write dialect).shape =
      (Fragment.shape dialect (plan.outline dialect).1,
        (plan.outline dialect).2.map fun population =>
          (population.1, Fragment.shape dialect population.2)) := by
  simp only [outline, Fragment.shape_masked parameterized, List.map_map, Function.comp_def,
    Population.outline]
  rw [write, FindStatement.shape, List.map_map]
  rfl

end FindPlan

namespace Statement

variable {schema : Schema} {dialect : Dialect} {name : String}

theorem shape_find_masked (parameterized : dialect.parameterized) (query : Query) :
    (find schema dialect name query.masked).map FindStatement.shape =
      (find schema dialect name query).map FindStatement.shape := by
  apply map_map_congr (FindPlan.outline_of dialect schema name query)
  intro plan plan' same
  rw [FindPlan.shape_write parameterized, FindPlan.shape_write parameterized, same]

/-- Queries that differ in values of one kind only fail with the same error, or give statements of
one shape. -/
theorem shape_find {left right : Query} (parameterized : dialect.parameterized)
    (same : left.masked = right.masked) :
    (find schema dialect name left).map FindStatement.shape =
      (find schema dialect name right).map FindStatement.shape := by
  rw [← shape_find_masked parameterized left, same, shape_find_masked parameterized right]

def searchQuery (text : String) (value : Value) : Query where
  filter := some [
    ("name", .object [("contains", .value (.string text))]),
    ("or", .list [
      .object [("id", .list [.value value, .value .null])],
      .object [("name", .value (.string text))]])]
  instructions := [("pets", .of .childHoldsKey [{
    parent := "user", parentKey := "id", child := "pet", childKey := "owner",
    criteria := some { loose := [("id", .object [("not", .value value)])] } }])]

theorem shape_find_sample :
    ∃ left right,
      find sampleSchema {} "user" (searchQuery "Ann" (.int 3)) = .ok left ∧
      find sampleSchema {} "user" (searchQuery "$9' OR 1=1" (.bool true)) = .ok right ∧
      left.shape = right.shape ∧ left.values.length = 4 := by
  have counted : (find sampleSchema {} "user" (searchQuery "Ann" (.int 3))).map
      (fun statement => statement.values.length) = .ok 4 := by decide
  obtain ⟨left, found, count⟩ := exists_of_map_eq_ok counted
  have same : (find sampleSchema {} "user" (searchQuery "Ann" (.int 3))).map
        FindStatement.shape =
      (find sampleSchema {} "user" (searchQuery "$9' OR 1=1" (.bool true))).map
        FindStatement.shape := shape_find rfl rfl
  rw [found] at same
  obtain ⟨right, foundRight, sameShape⟩ := exists_of_map_eq_ok same.symm
  exact ⟨left, right, found, foundRight, sameShape.symm, count⟩

end Statement

end QuerySql
