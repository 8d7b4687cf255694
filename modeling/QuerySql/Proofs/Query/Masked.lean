import Mathlib.Init
import QuerySql.Query.Basic

namespace QuerySql

def Value.masked : Value → Value
  | .null => .null
  | .string _ => .string ""
  | _ => .bool false

@[simp] theorem Value.isNull_masked (value : Value) : value.masked.isNull = value.isNull := by
  cases value <;> rfl

@[simp] theorem Value.isString_masked (value : Value) :
    value.masked.isString = value.isString := by
  cases value <;> rfl

namespace Filter

mutual

def masked : Filter → Filter
  | .value scalar => .value scalar.masked
  | .list items => .list (maskedItems items)
  | .object entries => .object (maskedEntries entries)
termination_by structural filter => filter

def maskedItems : List Filter → List Filter
  | [] => []
  | item :: rest => masked item :: maskedItems rest
termination_by structural items => items

def maskedEntries : List (String × Filter) → List (String × Filter)
  | [] => []
  | (key, filter) :: rest => (key, masked filter) :: maskedEntries rest
termination_by structural entries => entries

end

end Filter

namespace Query

mutual

def masked : Query → Query
  | ⟨filter, select, sort, limit, skip, groupBy, sum, average, min, max, instructions, loose⟩ =>
      { filter := filter.map Filter.maskedEntries
        select, sort, limit, skip, groupBy, sum, average, min, max
        instructions := maskedInstructions instructions
        loose := Filter.maskedEntries loose }
termination_by structural query => query

def maskedInstructions : List (String × Instruction) → List (String × Instruction)
  | [] => []
  | (attr, instruction) :: rest => (attr, maskedInstruction instruction) :: maskedInstructions rest
termination_by structural instructions => instructions

def maskedInstruction : Instruction → Instruction
  | ⟨strategy, stages⟩ => { strategy, stages := maskedStages stages }
termination_by structural instruction => instruction

def maskedStages : List Stage → List Stage
  | [] => []
  | stage :: rest => maskedStage stage :: maskedStages rest
termination_by structural stages => stages

def maskedStage : Stage → Stage
  | ⟨parent, parentKey, child, childKey, association, select, criteria⟩ =>
      { parent, parentKey, child, childKey, association, select,
        criteria := maskedCriteria criteria }
termination_by structural stage => stage

def maskedCriteria : Option Query → Option Query
  | none => none
  | some query => some (masked query)
termination_by structural criteria => criteria

end

theorem masked_instructions (query : Query) :
    query.masked.instructions = maskedInstructions query.instructions := by
  cases query
  rfl

theorem criteria_masked (query : Query) :
    query.masked.criteria = Filter.maskedEntries query.criteria := by
  obtain ⟨filter, _⟩ := query
  cases filter <;> rfl

theorem maskedStages_eq_map (stages : List Stage) :
    maskedStages stages = stages.map maskedStage := by
  induction stages with
  | nil => rfl
  | cons stage rest ih => rw [maskedStages, ih, List.map_cons]

theorem criteria_maskedStage (stage : Stage) :
    (maskedStage stage).criteria = stage.criteria.map masked := by
  obtain ⟨_, _, _, _, _, _, criteria⟩ := stage
  cases criteria <;> rfl

end Query

end QuerySql
