import QuerySql.Proofs.Outcome
import QuerySql.Statement.Find

namespace QuerySql

def Stage.ChangesCriteria (change : Stage → Stage) : Prop :=
  ∀ stage, ∃ criteria, change stage = { stage with criteria }

def Instruction.mapStages (change : Stage → Stage) (instruction : Instruction) : Instruction :=
  { instruction with stages := instruction.stages.map change }

theorem Instruction.firstStage_mapStages (change : Stage → Stage) (attr : String)
    (instruction : Instruction) :
    (instruction.mapStages change).firstStage attr = (instruction.firstStage attr).map change := by
  rw [firstStage, firstStage, mapStages]
  cases instruction.stages <;> rfl

def mapStages (change : Stage → Stage) (instructions : List (String × Instruction)) :
    List (String × Instruction) :=
  instructions.map fun entry => (entry.1, entry.2.mapStages change)

variable {change : Stage → Stage} (onlyCriteria : Stage.ChangesCriteria change) (schema : Schema)

section

include onlyCriteria

theorem Conditions.joinAliases_mapStages (instructions : List (String × Instruction)) :
    joinAliases (mapStages change instructions) = joinAliases instructions := by
  have sameStage : ∀ (attr : String) (instruction : Instruction),
      (instruction.mapStages change).stages.head?.map
          (fun stage => (attr, stage.associationName attr)) =
        instruction.stages.head?.map fun stage => (attr, stage.associationName attr) := by
    intro attr instruction
    rw [Instruction.mapStages, List.head?_map, Option.map_map]
    refine congrFun (congrArg Option.map (funext fun stage => ?_)) _
    obtain ⟨criteria, same⟩ := onlyCriteria stage
    rw [Function.comp_apply, same]
    rfl
  simp only [mapStages, joinAliases, List.filterMap_map, Function.comp_def, sameStage]
  rfl

theorem Selection.joinedColumns_mapStages (attr : String) (instruction : Instruction) :
    joinedColumns schema attr (instruction.mapStages change) =
      joinedColumns schema attr instruction := by
  rw [joinedColumns, joinedColumns, Instruction.firstStage_mapStages]
  cases instruction.firstStage attr with
  | error error => rfl
  | ok stage =>
      obtain ⟨criteria, same⟩ := onlyCriteria stage
      rw [Except.map, same]
      rfl

theorem Selection.allJoinedColumns_mapStages (instructions : List (String × Instruction)) :
    allJoinedColumns schema (mapStages change instructions) =
      allJoinedColumns schema instructions := by
  induction instructions with
  | nil => rfl
  | cons entry rest ih =>
      obtain ⟨attr, instruction⟩ := entry
      rw [mapStages, List.map_cons, ← mapStages, allJoinedColumns, allJoinedColumns, ih,
        joinedColumns_mapStages onlyCriteria]
      rfl

theorem Join.of_mapStages (attr : String) (instruction : Instruction) :
    of schema attr (instruction.mapStages change) = of schema attr instruction := by
  rw [of, of, Instruction.firstStage_mapStages]
  cases instruction.firstStage attr with
  | error error => rfl
  | ok stage =>
      obtain ⟨criteria, same⟩ := onlyCriteria stage
      rw [Except.map, same]
      rfl

theorem Join.all_mapStages (instructions : List (String × Instruction)) :
    all schema (mapStages change instructions) = all schema instructions := by
  induction instructions with
  | nil => rfl
  | cons entry rest ih =>
      obtain ⟨attr, instruction⟩ := entry
      rw [mapStages, List.map_cons, ← mapStages, all, all, ih, of_mapStages onlyCriteria]
      rfl

end

namespace Population

variable {γ δ : Type} {view : Population → γ} {conditionsView : Conditions → δ}
  (sameConditions : ∀ child stage,
    (childConditions schema child (change stage)).map conditionsView =
      (childConditions schema child stage).map conditionsView)
  (congr : ∀ attr columns table link key conditions conditions',
    conditionsView conditions = conditionsView conditions' →
      view ⟨attr, columns, table, link, key, conditions⟩ =
        view ⟨attr, columns, table, link, key, conditions'⟩)

include onlyCriteria sameConditions congr

theorem view_perParent (attr : String) (stage : Stage) :
    (perParent schema attr (change stage)).map view = (perParent schema attr stage).map view := by
  obtain ⟨criteria, same⟩ := onlyCriteria stage
  have alike := fun child => sameConditions child stage
  rw [same] at alike ⊢
  rw [perParent, perParent]
  cases schema.require stage.child with
  | error error => rfl
  | ok child => exact map_map_congr (alike child) (congr attr _ _ _ _)

theorem view_throughJunction (attr : String) (first second : Stage) :
    (throughJunction schema attr (change first) (change second)).map view =
      (throughJunction schema attr first second).map view := by
  obtain ⟨criteria, same⟩ := onlyCriteria first
  obtain ⟨criteria', same'⟩ := onlyCriteria second
  have alike := fun child => sameConditions child second
  rw [same'] at alike
  rw [same, same', throughJunction, throughJunction]
  cases schema.require first.child with
  | error error => rfl
  | ok junction =>
      cases schema.require second.child with
      | error error => rfl
      | ok child => exact map_map_congr (alike child) (congr attr _ _ _ _)

theorem view_of? (attr : String) (instruction : Instruction) :
    (of? schema attr (instruction.mapStages change)).map (Option.map view) =
      (of? schema attr instruction).map (Option.map view) := by
  have some_congr : ∀ population population', view population = view population' →
      (some population).map view = (some population').map view := fun _ _ => congrArg some
  obtain ⟨⟨join, hints⟩, stages⟩ := instruction
  rw [of?, of?]
  cases join with
  | parentHoldsKey => rfl
  | childHoldsKey =>
      cases stages with
      | nil => rfl
      | cons stage rest =>
          exact map_map_congr (view_perParent onlyCriteria schema sameConditions congr attr stage)
            some_congr
  | junction =>
      match stages with
      | [] | [_] => rfl
      | first :: second :: _ =>
          exact map_map_congr
            (view_throughJunction onlyCriteria schema sameConditions congr attr first second)
            some_congr

theorem view_all (instructions : List (String × Instruction)) :
    (all schema (mapStages change instructions)).map (List.map view) =
      (all schema instructions).map (List.map view) := by
  induction instructions with
  | nil => rfl
  | cons entry rest ih =>
      obtain ⟨attr, instruction⟩ := entry
      exact map_bind_congr (view_of? onlyCriteria schema sameConditions congr attr instruction)
        fun _ _ same => map_map_congr ih fun _ _ => map_toList_append_congr same

end Population

end QuerySql
