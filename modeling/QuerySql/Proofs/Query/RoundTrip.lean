import QuerySql.Proofs.Query.Written

namespace QuerySql

open Fields (Among)

namespace Query

/-- The parts of a query that reading restricts: criteria come from a document, columns to sort by
and associations are given once, and each association reads back. -/
structure Legible (query : Query) : Prop where
  filter : ∀ criteria ∈ query.filter, ∃ fields : Fields Json,
    (Json.object fields).isDistinct = true ∧ Filter.ofJsonFields fields = criteria
  sort : (query.sort.map Prod.fst).Nodup
  names : (query.instructions.map Prod.fst).Nodup
  instructions : ∀ entry ∈ query.instructions,
    ReadsBack instructionToJson readInstruction entry.2

theorem Legible.empty : Legible {} where
  filter := fun _ member => nomatch member
  sort := List.nodup_nil
  names := List.nodup_nil
  instructions := List.forall_mem_nil _

theorem readFields_append {query next last : Query} {front back : Fields Json}
    (first : readFields query front = .ok next) (second : readFields next back = .ok last) :
    readFields query (front ++ back) = .ok last := by
  rw [readFields_eq_foldlM] at first second ⊢
  exact foldlM_append_eq_ok first second

theorem readFields_optionalField {α : Type} {name : String} {value : Option α} {write : α → Json}
    (set : Option α → Query) (present : ∀ content ∈ value,
      readField (set none) name (write content) = .ok (set (some content))) :
    readFields (set none) (optionalField name value write) = .ok (set value) := by
  cases value with
  | none => rfl
  | some content =>
      rw [optionalField, readFields, present content rfl]
      rfl

theorem readFields_names (name : String) (value : Option (List String))
    (set : Option (List String) → Query) (reads : ∀ items,
      readField (set none) name (.array items) = (readNames (.array items)).map set) :
    readFields (set none) (optionalField name value Json.ofStrings) = .ok (set value) := by
  refine readFields_optionalField set fun names _ => ?_
  rw [Json.ofStrings, reads]
  exact congrArg (Except.map set) (readNames_ofStrings names)

theorem readFields_count (name : String) (value : Option UInt64) (set : Option UInt64 → Query)
    (reads : ∀ number, readField (set none) name (.number number) =
      (readCount (.number number)).map set) :
    readFields (set none) (optionalField name value countToJson) = .ok (set value) := by
  refine readFields_optionalField set fun count _ => ?_
  rw [countToJson, reads]
  exact congrArg (Except.map set) (readCount_countToJson count)

theorem readFields_unclaimed {fields : Fields Json}
    (unclaimed : ∀ field ∈ fields, field.1 ∉ fieldNames) (query : Query) :
    readFields query fields =
      .ok { query with loose := query.loose ++ Filter.ofJsonFields fields } := by
  induction fields generalizing query with
  | nil =>
      rw [Filter.ofJsonFields, List.append_nil]
      cases query
      rfl
  | cons field rest ih =>
      obtain ⟨own, others⟩ := List.forall_mem_cons.mp unclaimed
      rw [readFields, readField_of_notMem query field.2 own]
      refine (ih others _).trans ?_
      rw [Filter.ofJsonFields, List.append_assoc]
      rfl

namespace Legible

variable {query : Query}

theorem among_ownFields (legible : query.Legible) : Among fieldNames query.ownFields := by
  have filter : Among ["where"] (optionalField "where" query.filter Criteria.toJson) :=
    among_optionalField "where" fun criteria member => by
      obtain ⟨fields, distinct, rfl⟩ := legible.filter criteria member
      rw [toJson_ofJsonFields distinct]
      exact distinct
  have sort : Among ["sort"]
      (if query.sort.isEmpty then [] else [("sort", sortToJson query.sort)]) := by
    split
    · exact .nil
    · exact .single (isDistinct_sortToJson legible.sort)
  have instructions : Among ["instructions"]
      (if query.instructions.isEmpty then []
        else [("instructions", .object (instructionsToJson query.instructions))]) := by
    split
    · exact .nil
    · refine .single ((Json.isDistinct_object _).mpr ?_)
      rw [instructionsToJson_eq_map]
      refine ⟨?_, List.forall_mem_map.mpr fun entry member => ?_⟩
      · rw [Fields.names, List.map_map]
        exact legible.names
      · exact (legible.instructions entry member).distinct
  have names : ∀ (name : String) (value : Option (List String)),
      Among [name] (optionalField name value Json.ofStrings) := fun name _ =>
    among_optionalField name fun names _ => Json.isDistinct_ofStrings names
  have count : ∀ (name : String) (value : Option UInt64),
      Among [name] (optionalField name value countToJson) := fun name _ =>
    among_optionalField name fun _ _ => rfl
  exact ((((((((((filter.append (names "select" _)).append sort).append (count "limit" _)).append
    (count "skip" _)).append (names "groupBy" _)).append (names "sum" _)).append
    (names "average" _)).append (names "min" _)).append (names "max" _)).append instructions)

theorem readFields_ownFields (legible : query.Legible) :
    readFields {} query.ownFields = .ok { query with loose := [] } := by
  obtain ⟨filter, select, sort, limit, skip, groupBy, sum, average, min, max, instructions,
    loose⟩ := query
  have readsFilter : readFields {} (optionalField "where" filter Criteria.toJson) =
      .ok { filter } := by
    refine readFields_optionalField (fun filter => { filter }) fun criteria member => ?_
    obtain ⟨fields, distinct, rfl⟩ := legible.filter criteria member
    rw [toJson_ofJsonFields distinct]
    rfl
  have readsSort : readFields { filter, select }
      (if sort.isEmpty then [] else [("sort", sortToJson sort)]) =
        .ok { filter, select, sort } := by
    cases sort with
    | nil => rfl
    | cons first rest =>
        change Except.bind ((readSort (sortToJson (first :: rest))).map _) _ = _
        rw [readSort_sortToJson]
        rfl
  have readsInstructions : readFields
      { filter, select, sort, limit, skip, groupBy, sum, average, min, max }
      (if instructions.isEmpty then []
        else [("instructions", .object (instructionsToJson instructions))]) =
      .ok { filter, select, sort, limit, skip, groupBy, sum, average, min, max, instructions } := by
    cases instructions with
    | nil => rfl
    | cons first rest =>
        change Except.bind ((readInstructions (instructionsToJson _)).map _) _ = _
        rw [readInstructions_instructionsToJson legible.instructions]
        rfl
  have reads := readFields_append readsFilter
    (readFields_names "select" select (fun select => { filter, select }) fun _ => rfl)
  replace reads := readFields_append reads readsSort
  replace reads := readFields_append reads
    (readFields_count "limit" limit (fun limit => { filter, select, sort, limit }) fun _ => rfl)
  replace reads := readFields_append reads (readFields_count "skip" skip
    (fun skip => { filter, select, sort, limit, skip }) fun _ => rfl)
  replace reads := readFields_append reads (readFields_names "groupBy" groupBy
    (fun groupBy => { filter, select, sort, limit, skip, groupBy }) fun _ => rfl)
  replace reads := readFields_append reads (readFields_names "sum" sum
    (fun sum => { filter, select, sort, limit, skip, groupBy, sum }) fun _ => rfl)
  replace reads := readFields_append reads (readFields_names "average" average
    (fun average => { filter, select, sort, limit, skip, groupBy, sum, average }) fun _ => rfl)
  replace reads := readFields_append reads (readFields_names "min" min
    (fun min => { filter, select, sort, limit, skip, groupBy, sum, average, min }) fun _ => rfl)
  replace reads := readFields_append reads (readFields_names "max" max
    (fun max => { filter, select, sort, limit, skip, groupBy, sum, average, min, max })
    fun _ => rfl)
  exact readFields_append reads readsInstructions

theorem readsBack (legible : query.Legible) {fields : Fields Json}
    (distinct : (Json.object fields).isDistinct = true)
    (loose : query.loose = Filter.ofJsonFields (looseFields fields)) :
    ReadsBack toJson ofJson query := by
  obtain ⟨nodup, values⟩ := (Json.isDistinct_object fields).mp distinct
  have nodupLoose : (looseFields fields).names.Nodup := nodup.sublist (List.filter_sublist.map _)
  have valuesLoose : ∀ field ∈ looseFields fields, field.2.isDistinct = true :=
    fun field member => values field (List.mem_of_mem_filter member)
  have unclaimed : ∀ field ∈ looseFields fields, field.1 ∉ fieldNames := fun field member =>
    by simpa using (List.mem_filter.mp member).2
  have written : query.toJson = .object (query.ownFields ++ looseFields fields) := by
    rw [toJson_eq, loose, Filter.toJsonEntries_ofJsonFields fun field member =>
      Filter.toJson_ofJson (valuesLoose field member), Fields.collect_eq_self nodupLoose]
  have own := legible.among_ownFields
  refine ⟨?_, ?_⟩
  · rw [written, Json.isDistinct_object, Fields.names_append, List.nodup_append,
      List.forall_mem_append]
    refine ⟨⟨own.sublist.nodup (by decide), nodupLoose, ?_⟩, own.distinct, valuesLoose⟩
    rintro name isOwn _ isLoose rfl
    obtain ⟨field, member, rfl⟩ := List.mem_map.mp isLoose
    exact unclaimed field member (own.sublist.subset isOwn)
  · rw [written]
    refine (readFields_append legible.readFields_ownFields
      (readFields_unclaimed unclaimed _)).trans ?_
    rw [List.nil_append, ← loose]
    cases query
    rfl

theorem field {query' : Query} {name : String} {json : Json} (legible : query.Legible)
    (distinct : json.isDistinct = true)
    (populations : ∀ instructions, readInstructions json.fields = .ok instructions →
      ∀ entry ∈ instructions, ReadsBack instructionToJson readInstruction entry.2)
    (read : FieldRead query name json query') : query'.Legible := by
  cases read
  case filter filter reads =>
    refine { legible with filter := fun criteria member => ?_ }
    cases json
    case object fields =>
      cases reads
      cases member
      exact ⟨fields, distinct, rfl⟩
    all_goals
      cases reads
      try cases member
  case sort sort reads =>
    refine { legible with sort := ?_ }
    rw [names_of_readSort reads]
    exact Json.nodup_names_fields distinct
  case instructions fields instructions reads =>
    refine { legible with names := ?_, instructions := populations instructions reads }
    rw [names_of_readInstructions reads]
    exact Json.nodup_names_fields distinct
  case noInstructions => exact { empty with filter := legible.filter, sort := legible.sort }
  all_goals exact { legible with }

end Legible

structure InstructionDraft.Legible (draft : InstructionDraft) : Prop where
  strategy : ∀ strategy ∈ draft.strategy, ReadsBack strategyToJson readStrategy strategy
  stages : ∀ stages ∈ draft.stages, ∀ stage ∈ stages, ReadsBack stageToJson readStage stage

theorem InstructionDraft.Legible.empty : Legible {} :=
  ⟨fun _ member => (nomatch member), fun _ member => (nomatch member)⟩

theorem InstructionDraft.Legible.finish {draft : InstructionDraft} {instruction : Instruction}
    (legible : draft.Legible) (finishes : draft.finish = .ok instruction) :
    ReadsBack instructionToJson readInstruction instruction := by
  obtain ⟨strategy, stages⟩ := draft
  cases strategy with
  | none => cases finishes
  | some strategy =>
      cases stages with
      | none => cases finishes
      | some stages =>
          cases finishes
          exact readsBack_instruction (legible.strategy strategy rfl) (legible.stages stages rfl)

theorem InstructionDraft.Legible.plainField {draft next : InstructionDraft} {name : String}
    {json : Json} (legible : draft.Legible) (distinct : json.isDistinct = true)
    (reads : readPlainInstructionField draft name json = .ok next) : next.Legible := by
  unfold readPlainInstructionField at reads
  split at reads
  · obtain ⟨strategy, readsStrategy, rfl⟩ := exists_of_map_eq_ok reads
    refine { legible with strategy := fun _ member => ?_ }
    cases member
    exact readsBack_of_readStrategy distinct readsStrategy
  · split at reads <;> cases reads
    exact legible

def StageDraft.Legible (draft : StageDraft) : Prop :=
  ∀ query ∈ draft.criteria, ReadsBack toJson ofJson query

theorem StageDraft.Legible.empty : Legible {} :=
  fun _ member => nomatch member

theorem StageDraft.Legible.finish {draft : StageDraft} {stage : Stage} (legible : draft.Legible)
    (finishes : draft.finish = .ok stage) : ReadsBack stageToJson readStage stage := by
  rw [StageDraft.finish] at finishes
  obtain ⟨parent, -, finishes⟩ := exists_of_bind_eq_ok finishes
  obtain ⟨parentKey, -, finishes⟩ := exists_of_bind_eq_ok finishes
  obtain ⟨child, -, finishes⟩ := exists_of_bind_eq_ok finishes
  obtain ⟨childKey, -, rfl⟩ := exists_of_map_eq_ok finishes
  exact readsBack_stage legible

theorem StageDraft.Legible.plainField {draft next : StageDraft} {name : String} {json : Json}
    (legible : draft.Legible) (reads : readPlainStageField draft name json = .ok next) :
    next.Legible := by
  by_cases isCriteria : name = "criteria"
  · subst isCriteria
    cases json <;> cases reads
    exact fun _ member => nomatch member
  · simp only [readPlainStageField, isCriteria, if_false] at reads
    split_ifs at reads
    case neg =>
      cases reads
      exact legible
    all_goals
      obtain ⟨value, -, rfl⟩ := exists_of_map_eq_ok reads
      exact legible

theorem readInstructionFields_zip {draft last : InstructionDraft} {names : List String}
    {items : List Json} (reads : readInstructionItems draft names items = .ok last) :
    readInstructionFields draft (names.zip items) = .ok last := by
  induction items generalizing draft names with
  | nil =>
      cases reads
      rw [List.zip_nil_right]
      rfl
  | cons item rest ih =>
      cases names with
      | nil => cases reads
      | cons name names =>
          obtain ⟨next, readsField, readsRest⟩ := exists_of_bind_eq_ok reads
          rw [List.zip_cons_cons, readInstructionFields, readsField]
          exact ih readsRest

theorem readStageFields_zip {draft last : StageDraft} {names : List String} {items : List Json}
    (reads : readStageItems draft names items = .ok last) :
    readStageFields draft (names.zip items) = .ok last := by
  induction items generalizing draft names with
  | nil =>
      cases reads
      rw [List.zip_nil_right]
      rfl
  | cons item rest ih =>
      cases names with
      | nil => cases reads
      | cons name names =>
          obtain ⟨next, readsField, readsRest⟩ := exists_of_bind_eq_ok reads
          rw [List.zip_cons_cons, readStageFields, readsField]
          exact ih readsRest

/-- Whatever is read from a document is legible, and reads back. -/
structure Faithful (json : Json) : Prop where
  field : ∀ {query query' : Query} {name : String}, query.Legible →
    readField query name json = .ok query' → query'.Legible
  instructionField : ∀ {draft next : InstructionDraft} {name : String}, draft.Legible →
    readInstructionField draft name json = .ok next → next.Legible
  instruction : ∀ {instruction : Instruction}, readInstruction json = .ok instruction →
    ReadsBack instructionToJson readInstruction instruction
  stageField : ∀ {draft next : StageDraft} {name : String}, draft.Legible →
    readStageField draft name json = .ok next → next.Legible
  stage : ∀ {stage : Stage}, readStage json = .ok stage → ReadsBack stageToJson readStage stage

section

variable {fields : Fields Json} {items : List Json}

theorem legible_of_readFields (faithful : ∀ field ∈ fields, Faithful field.2)
    {query last : Query} (legible : query.Legible) (reads : readFields query fields = .ok last) :
    last.Legible := by
  rw [readFields_eq_foldlM] at reads
  exact invariant_of_foldlM (fun field member _ _ => (faithful field member).field) legible reads

theorem legible_of_readInstructionFields (faithful : ∀ field ∈ fields, Faithful field.2)
    {draft last : InstructionDraft} (legible : draft.Legible)
    (reads : readInstructionFields draft fields = .ok last) : last.Legible := by
  rw [readInstructionFields_eq_foldlM] at reads
  exact invariant_of_foldlM (fun field member _ _ => (faithful field member).instructionField)
    legible reads

theorem legible_of_readStageFields (faithful : ∀ field ∈ fields, Faithful field.2)
    {draft last : StageDraft} (legible : draft.Legible)
    (reads : readStageFields draft fields = .ok last) : last.Legible := by
  rw [readStageFields_eq_foldlM] at reads
  exact invariant_of_foldlM (fun field member _ _ => (faithful field member).stageField)
    legible reads

theorem readsBack_of_readInstructions (faithful : ∀ field ∈ fields, Faithful field.2)
    {instructions : List (String × Instruction)}
    (reads : readInstructions fields = .ok instructions) :
    ∀ entry ∈ instructions, ReadsBack instructionToJson readInstruction entry.2 := by
  induction fields generalizing instructions with
  | nil =>
      cases reads
      exact List.forall_mem_nil _
  | cons field rest ih =>
      obtain ⟨first, others⟩ := List.forall_mem_cons.mp faithful
      rw [readInstructions] at reads
      obtain ⟨instruction, readsFirst, readsRest⟩ := exists_of_bind_eq_ok reads
      obtain ⟨instructions, readsOthers, rfl⟩ := exists_of_map_eq_ok readsRest
      exact List.forall_mem_cons.mpr ⟨first.instruction readsFirst, ih others readsOthers⟩

theorem readsBack_of_readStages (faithful : ∀ item ∈ items, Faithful item) {stages : List Stage}
    (reads : readStages items = .ok stages) :
    ∀ stage ∈ stages, ReadsBack stageToJson readStage stage := by
  induction items generalizing stages with
  | nil =>
      cases reads
      exact List.forall_mem_nil _
  | cons item rest ih =>
      obtain ⟨first, others⟩ := List.forall_mem_cons.mp faithful
      rw [readStages] at reads
      obtain ⟨stage, readsFirst, readsRest⟩ := exists_of_bind_eq_ok reads
      obtain ⟨stages, readsOthers, rfl⟩ := exists_of_map_eq_ok readsRest
      exact List.forall_mem_cons.mpr ⟨first.stage readsFirst, ih others readsOthers⟩

end

theorem readsBack_of_readFields {fields : Fields Json} {query : Query}
    (distinct : (Json.object fields).isDistinct = true)
    (faithful : ∀ field ∈ fields, Faithful field.2) (reads : readFields {} fields = .ok query) :
    ReadsBack toJson ofJson query :=
  (legible_of_readFields faithful .empty reads).readsBack distinct
    (readFields_loose reads)

/-- One level of a document: its own readers, given those of its parts. -/
theorem faithful_of_parts {json : Json} (distinct : json.isDistinct = true)
    (items : ∀ item ∈ json.items, Faithful item)
    (fields : ∀ field ∈ json.fields, Faithful field.2) : Faithful json where
  field := fun legible reads =>
    legible.field distinct (fun _ => readsBack_of_readInstructions fields)
      (fieldRead_of_readField reads)
  instructionField := by
    intro draft next name legible reads
    cases json
    case array parts =>
      rw [readInstructionField] at reads
      split at reads
      · obtain ⟨stages, readsStages, rfl⟩ := exists_of_map_eq_ok reads
        refine { legible with stages := fun _ member => ?_ }
        cases member
        exact readsBack_of_readStages items readsStages
      · exact legible.plainField distinct reads
    all_goals exact legible.plainField distinct reads
  instruction := by
    intro instruction reads
    cases json
    case object parts =>
      obtain ⟨draft, readsFields, finishes⟩ := exists_of_bind_eq_ok reads
      exact (legible_of_readInstructionFields fields .empty readsFields).finish finishes
    case array parts =>
      obtain ⟨draft, readsItems, finishes⟩ := exists_of_bind_eq_ok reads
      have zipped : ∀ field ∈ instructionFields.zip parts, Faithful field.2 :=
        fun field member => items field.2 (List.of_mem_zip member).2
      exact (legible_of_readInstructionFields zipped .empty
        (readInstructionFields_zip readsItems)).finish finishes
    all_goals cases reads
  stageField := by
    intro draft next name legible reads
    cases json
    case object parts =>
      rw [readStageField] at reads
      split at reads
      · obtain ⟨criteria, readsCriteria, rfl⟩ := exists_of_map_eq_ok reads
        intro query member
        cases member
        exact readsBack_of_readFields distinct fields readsCriteria
      · exact legible.plainField reads
    all_goals exact legible.plainField reads
  stage := by
    intro stage reads
    cases json
    case object parts =>
      obtain ⟨draft, readsFields, finishes⟩ := exists_of_bind_eq_ok reads
      exact (legible_of_readStageFields fields .empty readsFields).finish finishes
    case array parts =>
      obtain ⟨draft, readsItems, finishes⟩ := exists_of_bind_eq_ok reads
      have zipped : ∀ field ∈ stageFields.zip parts, Faithful field.2 :=
        fun field member => items field.2 (List.of_mem_zip member).2
      exact (legible_of_readStageFields zipped .empty
        (readStageFields_zip readsItems)).finish finishes
    all_goals cases reads

theorem faithful {json : Json} (distinct : json.isDistinct = true) : Faithful json := by
  induction json using Json.induction with
  | step json items fields =>
      exact faithful_of_parts distinct
        (fun item member => items item member (Json.isDistinct_items distinct item member))
        (fun field member => fields field member (Json.isDistinct_fields distinct field member))

/-- Every query that a document gives is written to a document that gives it again.  Both documents
hold their criteria, sort columns and associations in the order in which the query holds them. -/
theorem ofJson_toJson {json : Json} {query : Query} (distinct : json.isDistinct = true)
    (reads : ofJson json = .ok query) :
    ofJson query.toJson = .ok query ∧ query.toJson.isDistinct = true ∧
      query.Follows json ∧ query.Follows query.toJson := by
  cases json
  case object fields =>
    have back := readsBack_of_readFields distinct
      (fun field member => faithful (Json.isDistinct_fields distinct field member)) reads
    refine ⟨back.read, back.distinct, follows_of_readFields distinct reads, ?_⟩
    have again := back.read
    have againDistinct := back.distinct
    rw [toJson_eq] at again againDistinct ⊢
    exact follows_of_readFields againDistinct again
  all_goals cases reads

def variedDocument : Json :=
  .object [
    ("select", .string "name"),
    ("age", .object [(">", .number (.signed 3)), ("not", .array [.null, .bool true])]),
    ("sort", .object [("born", .number (.signed (-1))), ("name", .string "asc")]),
    ("limit", .null),
    ("instructions", .object [
      ("pets", .array [
        .object [("strategy", .number (.signed 2)), ("meta", .object [])],
        .array [
          .array [
            .string "user", .string "id", .string "pet", .string "owner", .string "pets", .null,
            .object [
              ("where", .object [("name", .string "rex")]),
              ("skip", .number (.signed 1))]]]])]),
    ("kind", .string "cat")]

def variedQuery : Query where
  select := some ["name"]
  sort := [("born", .descending), ("name", .ascending)]
  instructions := [
    ("pets", {
      strategy := { join := .childHoldsKey, hints := some (.object []) }
      stages := [{
        parent := "user", parentKey := "id", child := "pet", childKey := "owner"
        association := "pets"
        criteria := some {
          filter := some [("name", .value (.string "rex"))]
          skip := some 1 } }] })]
  loose := [
    ("age", .object [(">", .value (.int 3)), ("not", .list [.value .null, .value (.bool true)])]),
    ("kind", .value (.string "cat"))]

theorem ofJson_toJson_varied :
    variedDocument.isDistinct = true ∧ ofJson variedDocument = .ok variedQuery ∧
      ofJson variedQuery.toJson = .ok variedQuery ∧ variedQuery.toJson.isDistinct = true ∧
        variedQuery.Follows variedDocument ∧ variedQuery.Follows variedQuery.toJson := by
  have distinct : variedDocument.isDistinct = true := by decide
  have reads : ofJson variedDocument = .ok variedQuery := by
    have number : readDirection (.number (.signed (-1))) = .ok .descending := rfl
    have word : readDirection (.string "asc") = .ok .ascending := rfl
    have count : readCount (.number (.signed 1)) = .ok (some 1) := rfl
    have noCount : readCount .null = .ok none := rfl
    have strategy : readStrategy
        (.object [("strategy", .number (.signed 2)), ("meta", .object [])]) =
          .ok { join := .childHoldsKey, hints := some (.object []) } := rfl
    simp [ofJson, variedDocument, variedQuery, readFields, readField, readPlainField, readNames,
      readSort, readSortFields, number, word, count, noCount, readCriteria, readInstructions,
      readInstruction, readInstructionItems, readInstructionField, readPlainInstructionField,
      instructionFields, strategy, InstructionDraft.finish, readStages, readStage, readStageItems,
      readStageField, readPlainStageField, stageFields, StageDraft.finish, expect, Except.bind,
      Except.map, Json.string?, Json.nullable?, Filter.ofJson, Filter.ofJsonFields,
      Filter.ofJsonItems, Value.ofJson]
  exact ⟨distinct, reads, ofJson_toJson distinct reads⟩

end Query

end QuerySql
