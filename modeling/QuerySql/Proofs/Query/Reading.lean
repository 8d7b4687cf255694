import QuerySql.Proofs.Json.Distinct
import QuerySql.Proofs.Outcome
import QuerySql.Query.Json

namespace QuerySql

namespace Json

def fieldOrNull (json : Json) (name : String) : Json :=
  (json.fields.get? name).getD .null

end Json

namespace Query

/-- The fields that a query claims for itself; every other one is a loose criterion. -/
def fieldNames : List String :=
  ["where", "select", "sort", "limit", "skip", "groupBy", "sum", "average", "min", "max",
    "instructions"]

def looseFields (fields : Fields Json) : Fields Json :=
  fields.filter fun field => !fieldNames.contains field.1

/-- Everything that one field can do to a query. -/
inductive FieldRead (query : Query) : String → Json → Query → Prop where
  | filter {json : Json} {filter : Option Criteria} :
      readCriteria json = .ok filter → FieldRead query "where" json { query with filter }
  | select {json : Json} {select : Option (List String)} :
      readNames json = .ok select → FieldRead query "select" json { query with select }
  | sort {json : Json} {sort : List (String × SortDirection)} :
      readSort json = .ok sort → FieldRead query "sort" json { query with sort }
  | limit {json : Json} {limit : Option UInt64} :
      readCount json = .ok limit → FieldRead query "limit" json { query with limit }
  | skip {json : Json} {skip : Option UInt64} :
      readCount json = .ok skip → FieldRead query "skip" json { query with skip }
  | groupBy {json : Json} {groupBy : Option (List String)} :
      readNames json = .ok groupBy → FieldRead query "groupBy" json { query with groupBy }
  | sum {json : Json} {sum : Option (List String)} :
      readNames json = .ok sum → FieldRead query "sum" json { query with sum }
  | average {json : Json} {average : Option (List String)} :
      readNames json = .ok average → FieldRead query "average" json { query with average }
  | min {json : Json} {min : Option (List String)} :
      readNames json = .ok min → FieldRead query "min" json { query with min }
  | max {json : Json} {max : Option (List String)} :
      readNames json = .ok max → FieldRead query "max" json { query with max }
  | instructions {fields : Fields Json} {instructions : List (String × Instruction)} :
      readInstructions fields = .ok instructions →
        FieldRead query "instructions" (.object fields) { query with instructions }
  | noInstructions : FieldRead query "instructions" .null { query with instructions := [] }
  | loose {name : String} {json : Json} :
      name ∉ fieldNames →
        FieldRead query name json
          { query with loose := query.loose ++ [(name, Filter.ofJson json)] }

section

variable {query query' : Query} {name : String} {json : Json}

theorem readPlainField_of_notMem (query : Query) (json : Json) (unclaimed : name ∉ fieldNames) :
    readPlainField query name json =
      .ok { query with loose := query.loose ++ [(name, Filter.ofJson json)] } := by
  simp only [fieldNames, List.mem_cons, List.not_mem_nil, or_false, not_or] at unclaimed
  simp only [readPlainField, unclaimed, if_false]

theorem readField_of_notMem (query : Query) (json : Json) (unclaimed : name ∉ fieldNames) :
    readField query name json =
      .ok { query with loose := query.loose ++ [(name, Filter.ofJson json)] } := by
  rw [← readPlainField_of_notMem query json unclaimed]
  cases json
  case object fields =>
    rw [readField, if_neg (ne_of_mem_of_not_mem (by decide) unclaimed).symm]
  all_goals rfl

theorem fieldRead_of_readPlainField (reads : readPlainField query name json = .ok query') :
    FieldRead query name json query' := by
  by_cases unclaimed : name ∉ fieldNames
  · rw [readPlainField_of_notMem query json unclaimed] at reads
    cases reads
    exact .loose unclaimed
  by_cases isInstructions : name = "instructions"
  · subst isInstructions
    cases json <;> cases reads
    exact .noInstructions
  · simp only [fieldNames, List.mem_cons, List.not_mem_nil, or_false, isInstructions, not_not]
      at unclaimed
    rcases unclaimed with rfl | rfl | rfl | rfl | rfl | rfl | rfl | rfl | rfl | rfl <;>
      obtain ⟨value, readsValue, rfl⟩ := exists_of_map_eq_ok reads <;>
      constructor <;>
      exact readsValue

theorem fieldRead_of_readField (reads : readField query name json = .ok query') :
    FieldRead query name json query' := by
  cases json
  case object fields =>
    rw [readField] at reads
    split at reads
    · subst name
      obtain ⟨instructions, readsAll, rfl⟩ := exists_of_map_eq_ok reads
      exact .instructions readsAll
    · exact fieldRead_of_readPlainField reads
  all_goals exact fieldRead_of_readPlainField reads

theorem readField_of_ne (query : Query) (json : Json) (other : name ≠ "instructions") :
    readField query name json = readPlainField query name json := by
  cases json
  case object fields => rw [readField, if_neg other]
  all_goals rfl

theorem readField_of_fieldRead (read : FieldRead query name json query') :
    readField query name json = .ok query' := by
  cases read
  case instructions fields instructions reads =>
    rw [readField, if_pos rfl, reads]
    rfl
  case noInstructions => rfl
  case loose unclaimed => exact readField_of_notMem query json unclaimed
  all_goals
    refine (readField_of_ne query json (by decide)).trans ?_
    exact congrArg (Except.map _) ‹_›

theorem failure?_readPlainField (query query' : Query) (name : String) (json : Json) :
    failure? (readPlainField query name json) = failure? (readPlainField query' name json) := by
  by_cases unclaimed : name ∉ fieldNames
  · rw [readPlainField_of_notMem query json unclaimed,
      readPlainField_of_notMem query' json unclaimed]
    rfl
  by_cases isInstructions : name = "instructions"
  · subst isInstructions
    cases json <;> rfl
  · simp only [fieldNames, List.mem_cons, List.not_mem_nil, or_false, isInstructions, not_not]
      at unclaimed
    rcases unclaimed with rfl | rfl | rfl | rfl | rfl | rfl | rfl | rfl | rfl | rfl <;>
      exact (failure?_map _ _).trans (failure?_map _ _).symm

theorem failure?_readField (query query' : Query) (name : String) (json : Json) :
    failure? (readField query name json) = failure? (readField query' name json) := by
  cases json
  case object fields =>
    rw [readField, readField]
    split
    · rw [failure?_map, failure?_map]
    · exact failure?_readPlainField query query' name _
  all_goals exact failure?_readPlainField query query' name _

/-- What changes a query without touching what a field sets can be done before or after the field is
read. -/
theorem readField_comm {change : Query → Query}
    (comm : ∀ query query', FieldRead query name json query' →
      FieldRead (change query) name json (change query'))
    (query : Query) :
    readField (change query) name json = (readField query name json).map change := by
  refine Keeps.eq_of_failure? (fun changed succeeds => ?_) ?_
  · obtain ⟨query', reads, rfl⟩ := exists_of_map_eq_ok succeeds
    exact readField_of_fieldRead (comm query query' (fieldRead_of_readField reads))
  · rw [failure?_map]
    exact failure?_readField (change query) query name json

end

theorem readFields_eq_foldlM (query : Query) (fields : Fields Json) :
    readFields query fields =
      fields.foldlM (fun query field => readField query field.1 field.2) query := by
  induction fields generalizing query with
  | nil => rfl
  | cons field rest ih =>
      rw [readFields, List.foldlM_cons]
      exact congrArg (Except.bind _) (funext ih)

theorem readInstructionFields_eq_foldlM (draft : InstructionDraft) (fields : Fields Json) :
    readInstructionFields draft fields =
      fields.foldlM (fun draft field => readInstructionField draft field.1 field.2) draft := by
  induction fields generalizing draft with
  | nil => rfl
  | cons field rest ih =>
      rw [readInstructionFields, List.foldlM_cons]
      exact congrArg (Except.bind _) (funext ih)

theorem readStageFields_eq_foldlM (draft : StageDraft) (fields : Fields Json) :
    readStageFields draft fields =
      fields.foldlM (fun draft field => readStageField draft field.1 field.2) draft := by
  induction fields generalizing draft with
  | nil => rfl
  | cons field rest ih =>
      rw [readStageFields, List.foldlM_cons]
      exact congrArg (Except.bind _) (funext ih)

theorem names_of_readSortFields {fields : Fields Json} {sort : List (String × SortDirection)}
    (reads : readSortFields fields = .ok sort) : sort.map Prod.fst = fields.names := by
  induction fields generalizing sort with
  | nil =>
      cases reads
      rfl
  | cons field rest ih =>
      obtain ⟨direction, -, readsRest⟩ := exists_of_bind_eq_ok reads
      obtain ⟨others, readsOthers, rfl⟩ := exists_of_map_eq_ok readsRest
      exact congrArg (field.1 :: ·) (ih readsOthers)

theorem names_of_readSort {json : Json} {sort : List (String × SortDirection)}
    (reads : readSort json = .ok sort) : sort.map Prod.fst = json.fields.names := by
  cases json
  case object fields => exact names_of_readSortFields reads
  all_goals
    cases reads
    try rfl

theorem names_of_readInstructions {fields : Fields Json}
    {instructions : List (String × Instruction)}
    (reads : readInstructions fields = .ok instructions) :
    instructions.map Prod.fst = fields.names := by
  induction fields generalizing instructions with
  | nil =>
      cases reads
      rfl
  | cons field rest ih =>
      rw [readInstructions] at reads
      obtain ⟨instruction, -, readsRest⟩ := exists_of_bind_eq_ok reads
      obtain ⟨others, readsOthers, rfl⟩ := exists_of_map_eq_ok readsRest
      exact congrArg (field.1 :: ·) (ih readsOthers)

theorem toJson_of_readCriteria {json : Json} {filter : Option Criteria}
    (distinct : json.isDistinct = true) (reads : readCriteria json = .ok filter) :
    (filter.map Criteria.toJson).getD .null = json := by
  cases json
  case object fields =>
    cases reads
    exact Filter.toJson_ofJson distinct
  all_goals
    cases reads
    try rfl

theorem readFields_view {β : Type} {view : Query → β} {key : String} {get : Json → β}
    (step : ∀ {query query' : Query} {name : String} {json : Json}, json.isDistinct = true →
      FieldRead query name json query' →
        view query' = if name = key then get json else view query)
    {fields : Fields Json} {query query' : Query}
    (distinct : (Json.object fields).isDistinct = true)
    (reads : readFields query fields = .ok query') :
    view query' = (fields.get? key).elim (view query) get := by
  induction fields generalizing query with
  | nil =>
      cases reads
      rfl
  | cons field rest ih =>
      obtain ⟨name, json⟩ := field
      obtain ⟨nodup, values⟩ := (Json.isDistinct_object _).mp distinct
      rw [Fields.names, List.map_cons, List.nodup_cons] at nodup
      rw [List.forall_mem_cons] at values
      rw [readFields] at reads
      obtain ⟨next, readsField, readsRest⟩ := exists_of_bind_eq_ok reads
      rw [ih ((Json.isDistinct_object rest).mpr ⟨nodup.2, values.2⟩) readsRest,
        step values.1 (fieldRead_of_readField readsField), Fields.get?_cons]
      split
      · rename_i isKey
        rw [Fields.get?_eq_none (isKey ▸ nodup.1)]
        rfl
      · rfl

theorem readFields_view_of_empty {β : Type} (view : Query → β) (get : Json → β) {key : String}
    (step : ∀ {query query' : Query} {name : String} {json : Json}, json.isDistinct = true →
      FieldRead query name json query' →
        view query' = if name = key then get json else view query)
    (empty : view {} = get .null) {fields : Fields Json} {query : Query}
    (distinct : (Json.object fields).isDistinct = true)
    (reads : readFields {} fields = .ok query) :
    view query = get ((Json.object fields).fieldOrNull key) := by
  rw [readFields_view step distinct reads, Json.fieldOrNull, Json.fields, empty]
  cases fields.get? key <;> rfl

theorem readFields_loose {fields : Fields Json} {query query' : Query}
    (reads : readFields query fields = .ok query') :
    query'.loose = query.loose ++ Filter.ofJsonFields (looseFields fields) := by
  induction fields generalizing query with
  | nil =>
      cases reads
      exact (List.append_nil _).symm
  | cons field rest ih =>
      obtain ⟨name, json⟩ := field
      rw [readFields] at reads
      obtain ⟨next, readsField, readsRest⟩ := exists_of_bind_eq_ok reads
      rw [ih readsRest]
      cases fieldRead_of_readField readsField
      case loose unclaimed =>
        simp [looseFields, unclaimed, Filter.ofJsonFields]
      all_goals
        rfl

/-- A query holds its criteria, its sort columns and its instructions in the order of a document,
and its criteria are those of the document at every depth. -/
structure Follows (query : Query) (json : Json) : Prop where
  filter : (query.filter.map Criteria.toJson).getD .null = json.fieldOrNull "where"
  sort : query.sort.map Prod.fst = (json.fieldOrNull "sort").fields.names
  instructions : query.instructions.map Prod.fst = (json.fieldOrNull "instructions").fields.names
  loose : Filter.toJsonEntries query.loose = looseFields json.fields

theorem follows_of_readFields {fields : Fields Json} {query : Query}
    (distinct : (Json.object fields).isDistinct = true)
    (reads : readFields {} fields = .ok query) : query.Follows (.object fields) where
  filter := by
    refine readFields_view_of_empty (fun query => (query.filter.map Criteria.toJson).getD .null)
      id ?_ rfl distinct reads
    intro query query' name json distinct read
    cases read
    case filter filter readsFilter => exact toJson_of_readCriteria distinct readsFilter
    case loose unclaimed => rw [if_neg (ne_of_mem_of_not_mem (by decide) unclaimed).symm]
    all_goals rfl
  sort := by
    refine readFields_view_of_empty (fun query => query.sort.map Prod.fst)
      (fun json => json.fields.names) ?_ rfl distinct reads
    intro query query' name json distinct read
    cases read
    case sort sort readsSort => exact names_of_readSort readsSort
    case loose unclaimed => rw [if_neg (ne_of_mem_of_not_mem (by decide) unclaimed).symm]
    all_goals rfl
  instructions := by
    refine readFields_view_of_empty (fun query => query.instructions.map Prod.fst)
      (fun json => json.fields.names) ?_ rfl distinct reads
    intro query query' name json distinct read
    cases read
    case instructions fields instructions readsAll => exact names_of_readInstructions readsAll
    case loose unclaimed => rw [if_neg (ne_of_mem_of_not_mem (by decide) unclaimed).symm]
    all_goals rfl
  loose := by
    rw [readFields_loose reads]
    refine Filter.toJsonEntries_ofJsonFields fun field member => Filter.toJson_ofJson ?_
    exact Json.isDistinct_fields distinct field (List.mem_of_mem_filter member)

end Query

end QuerySql
