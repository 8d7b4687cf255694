import QuerySql.Json.Printer
import QuerySql.Json.Record
import QuerySql.Query.Basic
import QuerySql.Text.Case

/-!
Query objects in JSON.  Fields are read in the order in which they stand, and the first one that
cannot be read decides the error.
-/

namespace QuerySql

namespace Query

inductive ReadError where
  | sortDirection (found : Json)
  | joinStrategy (number : Nat)
  | unexpected

def ReadError.message? : ReadError → Option String
  | .sortDirection found =>
      some (s!"invalid sort direction {found.render}:" ++ " expected 1, -1, \"asc\" or \"desc\"")
  | .joinStrategy number =>
      some s!"unknown join strategy {Text.decimal number}: expected 1, 2 or 3"
  | .unexpected => none

abbrev Read := Except ReadError

def expect {α : Type} : Option α → Read α
  | some value => .ok value
  | none => .error .unexpected

/-- A text alone stands for the list that holds it. -/
def readNames : Json → Read (Option (List String))
  | .null => .ok none
  | .string name => .ok (some [name])
  | json => (expect (Json.strings? json)).map some

def readDirection : Json → Read SortDirection
  | .number number =>
      if number.toInt? = some 1 then .ok .ascending
      else if number.toInt? = some (-1) then .ok .descending
      else .error (.sortDirection (.number number))
  | .string word =>
      if Text.equalsIgnoringCase word "asc" then .ok .ascending
      else if Text.equalsIgnoringCase word "desc" then .ok .descending
      else .error (.sortDirection (.string word))
  | json => .error (.sortDirection json)

def readSortFields : List (String × Json) → Read (List (String × SortDirection))
  | [] => .ok []
  | (key, json) :: rest =>
      (readDirection json).bind fun direction =>
        (readSortFields rest).map fun sort => (key, direction) :: sort

def readSort : Json → Read (List (String × SortDirection))
  | .null => .ok []
  | .object fields => readSortFields fields
  | _ => .error .unexpected

def readCriteria : Json → Read (Option Criteria)
  | .null => .ok none
  | .object fields => .ok (some (Filter.ofJsonFields fields))
  | _ => .error .unexpected

def readCount (json : Json) : Read (Option UInt64) :=
  expect (Json.nullable? Json.uint64? json)

def readPlainField (query : Query) (name : String) (json : Json) : Read Query :=
  if name = "where" then (readCriteria json).map fun filter => { query with filter }
  else if name = "select" then (readNames json).map fun select => { query with select }
  else if name = "sort" then (readSort json).map fun sort => { query with sort }
  else if name = "limit" then (readCount json).map fun limit => { query with limit }
  else if name = "skip" then (readCount json).map fun skip => { query with skip }
  else if name = "groupBy" then (readNames json).map fun groupBy => { query with groupBy }
  else if name = "sum" then (readNames json).map fun sum => { query with sum }
  else if name = "average" then (readNames json).map fun average => { query with average }
  else if name = "min" then (readNames json).map fun min => { query with min }
  else if name = "max" then (readNames json).map fun max => { query with max }
  else if name = "instructions" then
    match json with
    | .null => .ok { query with instructions := [] }
    | _ => .error .unexpected
  else .ok { query with loose := query.loose ++ [(name, Filter.ofJson json)] }

/-- The number of a strategy is a byte. -/
def readJoin (json : Json) : Read JoinStrategy :=
  (expect (Json.uint64? json)).bind fun number =>
    if number = 1 then .ok .parentHoldsKey
    else if number = 2 then .ok .childHoldsKey
    else if number = 3 then .ok .junction
    else if number.toNat < 256 then .error (.joinStrategy number.toNat)
    else .error .unexpected

def readHints : Option Json → Option Json
  | some .null => none
  | hints => hints

def readStrategy : Json → Read Strategy
  | .object fields =>
      (expect (Fields.get? fields "strategy")).bind fun json =>
        (readJoin json).map fun join => { join, hints := readHints (Fields.get? fields "meta") }
  | .array (json :: rest) =>
      (readJoin json).bind fun join =>
        match rest with
        | [] => .ok { join }
        | [hints] => .ok { join, hints := readHints (some hints) }
        | _ => .error .unexpected
  | _ => .error .unexpected

structure InstructionDraft where
  strategy : Option Strategy := none
  stages : Option (List Stage) := none

def InstructionDraft.finish (draft : InstructionDraft) : Read Instruction :=
  (expect draft.strategy).bind fun strategy =>
    (expect draft.stages).map fun stages => { strategy, stages }

def readPlainInstructionField (draft : InstructionDraft) (name : String) (json : Json) :
    Read InstructionDraft :=
  if name = "strategy" then
    (readStrategy json).map fun strategy => { draft with strategy := some strategy }
  else if name = "instructions" then .error .unexpected
  else .ok draft

structure StageDraft where
  parent : Option String := none
  parentKey : Option String := none
  child : Option String := none
  childKey : Option String := none
  association : String := ""
  select : Option (List String) := none
  criteria : Option Query := none

def StageDraft.finish (draft : StageDraft) : Read Stage :=
  (expect draft.parent).bind fun parent =>
    (expect draft.parentKey).bind fun parentKey =>
      (expect draft.child).bind fun child =>
        (expect draft.childKey).map fun childKey =>
          { parent, parentKey, child, childKey, association := draft.association,
            select := draft.select, criteria := draft.criteria }

def readPlainStageField (draft : StageDraft) (name : String) (json : Json) : Read StageDraft :=
  let text := expect (Json.string? json)
  if name = "parent" then text.map fun parent => { draft with parent := some parent }
  else if name = "parentKey" then text.map fun key => { draft with parentKey := some key }
  else if name = "child" then text.map fun child => { draft with child := some child }
  else if name = "childKey" then text.map fun key => { draft with childKey := some key }
  else if name = "alias" then text.map fun association => { draft with association }
  else if name = "select" then
    (expect (Json.nullable? Json.strings? json)).map fun select => { draft with select }
  else if name = "criteria" then
    match json with
    | .null => .ok { draft with criteria := none }
    | _ => .error .unexpected
  else .ok draft

def instructionFields : List String :=
  ["strategy", "instructions"]

def stageFields : List String :=
  ["parent", "parentKey", "child", "childKey", "alias", "select", "criteria"]

mutual

def readFields (query : Query) : List (String × Json) → Read Query
  | [] => .ok query
  | (name, json) :: rest =>
      (readField query name json).bind fun query => readFields query rest
termination_by structural fields => fields

def readField (query : Query) (name : String) : Json → Read Query
  | .object fields =>
      if name = "instructions" then
        (readInstructions fields).map fun instructions => { query with instructions }
      else readPlainField query name (.object fields)
  | json => readPlainField query name json
termination_by structural json => json

def readInstructions : List (String × Json) → Read (List (String × Instruction))
  | [] => .ok []
  | (attr, json) :: rest =>
      (readInstruction json).bind fun instruction =>
        (readInstructions rest).map fun instructions => (attr, instruction) :: instructions
termination_by structural fields => fields

def readInstruction : Json → Read Instruction
  | .object fields => (readInstructionFields {} fields).bind InstructionDraft.finish
  | .array items => (readInstructionItems {} instructionFields items).bind InstructionDraft.finish
  | _ => .error .unexpected
termination_by structural json => json

def readInstructionFields (draft : InstructionDraft) :
    List (String × Json) → Read InstructionDraft
  | [] => .ok draft
  | (name, json) :: rest =>
      (readInstructionField draft name json).bind fun draft => readInstructionFields draft rest
termination_by structural fields => fields

def readInstructionItems (draft : InstructionDraft) (names : List String) :
    List Json → Read InstructionDraft
  | [] => .ok draft
  | json :: rest =>
      match names with
      | [] => .error .unexpected
      | name :: names =>
          (readInstructionField draft name json).bind fun draft =>
            readInstructionItems draft names rest
termination_by structural items => items

def readInstructionField (draft : InstructionDraft) (name : String) :
    Json → Read InstructionDraft
  | .array items =>
      if name = "instructions" then
        (readStages items).map fun stages => { draft with stages := some stages }
      else readPlainInstructionField draft name (.array items)
  | json => readPlainInstructionField draft name json
termination_by structural json => json

def readStages : List Json → Read (List Stage)
  | [] => .ok []
  | json :: rest =>
      (readStage json).bind fun stage => (readStages rest).map fun stages => stage :: stages
termination_by structural items => items

def readStage : Json → Read Stage
  | .object fields => (readStageFields {} fields).bind StageDraft.finish
  | .array items => (readStageItems {} stageFields items).bind StageDraft.finish
  | _ => .error .unexpected
termination_by structural json => json

def readStageFields (draft : StageDraft) : List (String × Json) → Read StageDraft
  | [] => .ok draft
  | (name, json) :: rest =>
      (readStageField draft name json).bind fun draft => readStageFields draft rest
termination_by structural fields => fields

def readStageItems (draft : StageDraft) (names : List String) : List Json → Read StageDraft
  | [] => .ok draft
  | json :: rest =>
      match names with
      | [] => .error .unexpected
      | name :: names =>
          (readStageField draft name json).bind fun draft => readStageItems draft names rest
termination_by structural items => items

def readStageField (draft : StageDraft) (name : String) : Json → Read StageDraft
  | .object fields =>
      if name = "criteria" then
        (readFields {} fields).map fun criteria => { draft with criteria := some criteria }
      else readPlainStageField draft name (.object fields)
  | json => readPlainStageField draft name json
termination_by structural json => json

end

def ofJson : Json → Read Query
  | .object fields => readFields {} fields
  | _ => .error .unexpected

def optionalField {α : Type} (name : String) (value : Option α) (toJson : α → Json) :
    List (String × Json) :=
  match value with
  | none => []
  | some value => [(name, toJson value)]

def sortToJson (sort : List (String × SortDirection)) : Json :=
  .object (sort.map fun (key, direction) => (key, .string direction.sql))

def countToJson (count : UInt64) : Json :=
  .number (Json.Number.ofUInt64 count)

def strategyToJson (strategy : Strategy) : Json :=
  .object
    (("strategy", countToJson strategy.join.number) :: optionalField "meta" strategy.hints id)

mutual

def toJson : Query → Json
  | ⟨filter, select, sort, limit, skip, groupBy, sum, average, min, max, instructions, loose⟩ =>
      .object (
        optionalField "where" filter Criteria.toJson
          ++ optionalField "select" select Json.ofStrings
          ++ (if sort.isEmpty then [] else [("sort", sortToJson sort)])
          ++ optionalField "limit" limit countToJson
          ++ optionalField "skip" skip countToJson
          ++ optionalField "groupBy" groupBy Json.ofStrings
          ++ optionalField "sum" sum Json.ofStrings
          ++ optionalField "average" average Json.ofStrings
          ++ optionalField "min" min Json.ofStrings
          ++ optionalField "max" max Json.ofStrings
          ++ (if instructions.isEmpty then []
              else [("instructions", .object (instructionsToJson instructions))])
          ++ Fields.collect (Filter.toJsonEntries loose))
termination_by structural query => query

def instructionsToJson : List (String × Instruction) → List (String × Json)
  | [] => []
  | (attr, instruction) :: rest =>
      (attr, instructionToJson instruction) :: instructionsToJson rest
termination_by structural instructions => instructions

def instructionToJson : Instruction → Json
  | ⟨strategy, stages⟩ =>
      .object [
        ("strategy", strategyToJson strategy),
        ("instructions", .array (stagesToJson stages))]
termination_by structural instruction => instruction

def stagesToJson : List Stage → List Json
  | [] => []
  | stage :: rest => stageToJson stage :: stagesToJson rest
termination_by structural stages => stages

def stageToJson : Stage → Json
  | ⟨parent, parentKey, child, childKey, association, select, criteria⟩ =>
      .object (
        [("parent", .string parent), ("parentKey", .string parentKey), ("child", .string child),
          ("childKey", .string childKey), ("alias", .string association)]
          ++ optionalField "select" select Json.ofStrings
          ++ stageCriteriaToJson criteria)
termination_by structural stage => stage

def stageCriteriaToJson : Option Query → List (String × Json)
  | none => []
  | some query => [("criteria", toJson query)]
termination_by structural criteria => criteria

end

end Query

def Instruction.ofJson : Json → Query.Read Instruction :=
  Query.readInstruction

end QuerySql
