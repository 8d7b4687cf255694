import QuerySql.Query.Basic

namespace QuerySql

namespace Query

mutual

def unwrapped : Query → Query
  | ⟨filter, select, sort, limit, skip, groupBy, sum, average, min, max, instructions, loose⟩ =>
      { select, sort, limit, skip, groupBy, sum, average, min, max
        instructions := unwrappedInstructions instructions
        loose := filter.getD loose }
termination_by structural query => query

def unwrappedInstructions : List (String × Instruction) → List (String × Instruction)
  | [] => []
  | (attr, instruction) :: rest =>
      (attr, unwrappedInstruction instruction) :: unwrappedInstructions rest
termination_by structural instructions => instructions

def unwrappedInstruction : Instruction → Instruction
  | ⟨strategy, stages⟩ => { strategy, stages := unwrappedStages stages }
termination_by structural instruction => instruction

def unwrappedStages : List Stage → List Stage
  | [] => []
  | stage :: rest => unwrappedStage stage :: unwrappedStages rest
termination_by structural stages => stages

def unwrappedStage : Stage → Stage
  | ⟨parent, parentKey, child, childKey, association, select, criteria⟩ =>
      { parent, parentKey, child, childKey, association, select,
        criteria := unwrappedCriteria criteria }
termination_by structural stage => stage

def unwrappedCriteria : Option Query → Option Query
  | none => none
  | some query => some (unwrapped query)
termination_by structural criteria => criteria

end

def unwrappedWithin (query : Query) : Query :=
  { query with instructions := unwrappedInstructions query.instructions }

theorem unwrapped_eq (query : Query) :
    query.unwrapped =
      { query.unwrappedWithin with filter := none, loose := query.unwrappedWithin.criteria } := by
  cases query
  rfl

theorem instructions_unwrapped (query : Query) :
    query.unwrapped.instructions = unwrappedInstructions query.instructions := by
  cases query
  rfl

@[simp] theorem criteria_unwrapped (query : Query) : query.unwrapped.criteria = query.criteria := by
  cases query
  rfl

theorem unwrapped_wrap (query : Query) (criteria : Criteria) :
    unwrapped { query with filter := some criteria } =
      unwrapped { query with filter := none, loose := criteria } := by
  cases query
  rfl

theorem unwrapped_loosen {query : Query} (filled : query.filter.isSome) (loose loose' : Criteria) :
    unwrapped { query with loose } = unwrapped { query with loose := loose' } := by
  obtain ⟨filter, _⟩ := query
  cases filter with
  | none => cases filled
  | some criteria => rfl

theorem criteria_unwrappedStage (stage : Stage) :
    (unwrappedStage stage).criteria = stage.criteria.map unwrapped := by
  obtain ⟨_, _, _, _, _, _, criteria⟩ := stage
  cases criteria <;> rfl

theorem unwrappedStages_eq_map (stages : List Stage) :
    unwrappedStages stages = stages.map unwrappedStage := by
  induction stages with
  | nil => rfl
  | cons stage rest ih => rw [unwrappedStages, ih, List.map_cons]

end Query

end QuerySql
