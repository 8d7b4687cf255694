import QuerySql.Proofs.Query.Restated
import QuerySql.Proofs.Statement.Placeholders
import QuerySql.Proofs.Statement.Stages

namespace QuerySql

namespace Query

theorem changesCriteria_unwrappedStage : Stage.ChangesCriteria unwrappedStage := by
  intro stage
  cases stage
  exact ⟨_, rfl⟩

theorem unwrappedInstructions_eq_mapStages (instructions : List (String × Instruction)) :
    unwrappedInstructions instructions = mapStages unwrappedStage instructions := by
  induction instructions with
  | nil => rfl
  | cons entry rest ih =>
      obtain ⟨attr, ⟨strategy, stages⟩⟩ := entry
      rw [unwrappedInstructions, ih, unwrappedInstruction, unwrappedStages_eq_map]
      rfl

theorem sortedCriteria_unwrapped (child : Table) (stage : Stage) :
    Population.sortedCriteria child (unwrappedStage stage) =
      (Population.sortedCriteria child stage).unwrapped := by
  have sameCriteria : (unwrappedStage stage).criteria.getD {} =
      (stage.criteria.getD {}).unwrapped := by
    rw [criteria_unwrappedStage]
    cases stage.criteria <;> rfl
  rw [Population.sortedCriteria, Population.sortedCriteria, sameCriteria]
  cases stage.criteria.getD {} with
  | mk filter select sort limit skip groupBy sum average min max instructions loose =>
      cases sort <;> rfl

end Query

open Query

variable (schema : Schema)

theorem Conditions.of_unwrapped (table : Table) (query : Query) :
    Conditions.of schema table query.unwrapped = Conditions.of schema table query := by
  have sameScope : scope schema table query.unwrapped = scope schema table query := by
    rw [scope, scope, instructions_unwrapped, unwrappedInstructions_eq_mapStages,
      joinAliases_mapStages changesCriteria_unwrappedStage]
  have sameTail : Tail.of table query.unwrapped = Tail.of table query := by
    cases query
    rfl
  rw [Conditions.of, Conditions.of, sameScope, sameTail, criteria_unwrapped]

theorem Selection.of_unwrapped (table : Table) (query : Query) :
    Selection.of schema table query.unwrapped = Selection.of schema table query := by
  rw [Selection.of, Selection.of, instructions_unwrapped, unwrappedInstructions_eq_mapStages,
    allJoinedColumns_mapStages changesCriteria_unwrappedStage]
  cases query
  rfl

namespace Population

theorem childConditions_unwrapped (child : Table) (stage : Stage) :
    childConditions schema child (unwrappedStage stage) = childConditions schema child stage := by
  simp only [childConditions, sortedCriteria_unwrapped, Conditions.of_unwrapped]

theorem all_unwrapped (instructions : List (String × Instruction)) :
    all schema (unwrappedInstructions instructions) = all schema instructions := by
  have same : (all schema (mapStages unwrappedStage instructions)).map (List.map id) =
      (all schema instructions).map (List.map id) :=
    view_all changesCriteria_unwrappedStage schema
      (fun child stage => congrArg (Except.map id) (childConditions_unwrapped schema child stage))
      (fun attr columns table link key _ _ => congrArg (Population.mk attr columns table link key))
      instructions
  rw [unwrappedInstructions_eq_mapStages]
  simpa using same

end Population

theorem FindPlan.of_unwrapped (name : String) (query : Query) :
    FindPlan.of schema name query.unwrapped = FindPlan.of schema name query := by
  have sameJoins : Join.all schema (unwrappedInstructions query.instructions) =
      Join.all schema query.instructions := by
    rw [unwrappedInstructions_eq_mapStages, Join.all_mapStages changesCriteria_unwrappedStage]
  simp only [FindPlan.of, Selection.of_unwrapped, Conditions.of_unwrapped, instructions_unwrapped,
    sameJoins, Population.all_unwrapped]

namespace Statement

variable (dialect : Dialect) (name : String) (query : Query)

theorem find_unwrapped :
    find schema dialect name query.unwrapped = find schema dialect name query := by
  rw [find, find, FindPlan.of_unwrapped]

theorem select_unwrapped :
    select schema dialect name query.unwrapped = select schema dialect name query := by
  simp only [select, Selection.of_unwrapped]

/-- Query objects that say the same in other places are read with the same error, or as queries that
are compiled to the same statements, or to the same error. -/
theorem agree_of_restated {fields fields' : Fields Json} (restated : Restated fields fields') :
    (∃ error, ofJson (.object fields) = .error error ∧ ofJson (.object fields') = .error error) ∨
      ∃ query query', ofJson (.object fields) = .ok query ∧ ofJson (.object fields') = .ok query' ∧
        ∀ schema dialect name,
          find schema dialect name query = find schema dialect name query' ∧
            select schema dialect name query = select schema dialect name query' := by
  rcases error_or_ok_of_map_eq restated.unwrapped_readFields with
    ⟨error, fails, fails'⟩ | ⟨query, query', reads, reads', same⟩
  · exact .inl ⟨error, fails, fails'⟩
  · refine .inr ⟨query, query', reads, reads', fun schema dialect name => ?_⟩
    rw [← find_unwrapped schema dialect name query, ← select_unwrapped schema dialect name query,
      same, find_unwrapped, select_unwrapped]
    exact ⟨rfl, rfl⟩

def petsStage (criteria : Fields Json) : Json :=
  .object [
    ("parent", .string "user"), ("parentKey", .string "id"), ("child", .string "pet"),
    ("childKey", .string "owner"), ("criteria", .object criteria)]

def petsInstructions (criteria : Fields Json) : Json :=
  .object [
    ("pets", .array [.object [("strategy", .number (.signed 2))], .array [petsStage criteria]])]

def looseDocument (pets : Fields Json) : Fields Json := [
  ("name", .string "Ann"), ("instructions", petsInstructions pets), ("where", .null),
  ("id", .object [("not", .bool false)])]

def wrappedDocument (pets : Fields Json) : Fields Json := [
  ("where", .object [("name", .string "Ann"), ("id", .object [("not", .bool false)])]),
  ("instructions", petsInstructions pets)]

theorem agree_of_restated_pets :
    let pets : Fields Json := [("where", .object [("id", .bool true)])]
    Restated (looseDocument (("id", .null) :: pets)) (wrappedDocument pets) ∧
      ∃ query query' statement,
        ofJson (.object (looseDocument (("id", .null) :: pets))) = .ok query ∧
        ofJson (.object (wrappedDocument pets)) = .ok query' ∧
        find sampleSchema {} "user" query = .ok statement ∧
        find sampleSchema {} "user" query' = .ok statement ∧ statement.values.length = 2 := by
  intro pets
  have stage : RestatedStage (petsStage (("id", .null) :: pets)) (petsStage pets) :=
    .object [_, _, _, _] [] (.loosened (.tail _ (.head _)) (by simp [pets]) rfl)
  have inside : Restated (looseDocument (("id", .null) :: pets)) (looseDocument pets) :=
    .population [_] [_, _] [] [] "pets" (.array _ [] [] stage)
  have outside : Restated (looseDocument pets)
      ([] ++ ("where", .object (looseFields (looseDocument pets)))
        :: [("instructions", petsInstructions pets)]) :=
    .wrapped (by simp [looseDocument]) rfl
  have restated : Restated (looseDocument (("id", .null) :: pets)) (wrappedDocument pets) :=
    inside.trans outside
  obtain ⟨query', statement, reads', found, count⟩ : ∃ query' statement,
      ofJson (.object (wrappedDocument pets)) = .ok query' ∧
        find sampleSchema {} "user" query' = .ok statement ∧ statement.values.length = 2 :=
    ⟨_, _, rfl, rfl, rfl⟩
  rcases agree_of_restated restated with ⟨error, fails, fails'⟩ | ⟨query, _, reads, again, same⟩
  · cases fails'.symm.trans reads'
  · cases again.symm.trans reads'
    refine ⟨restated, query, query', statement, reads, reads', ?_, found, count⟩
    rw [(same sampleSchema {} "user").1, found]

end Statement

end QuerySql
