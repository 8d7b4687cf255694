import QuerySql.Proofs.Query.Reading

namespace QuerySql

open Fields (Among)

theorem Json.isDistinct_ofStrings (values : List String) :
    (Json.ofStrings values).isDistinct = true := by
  refine (Json.isDistinct_array _).mpr fun item member => ?_
  obtain ⟨value, -, rfl⟩ := List.mem_map.mp member
  rfl

theorem Json.strings?_ofStrings (values : List String) :
    Json.strings? (Json.ofStrings values) = some values := by
  induction values with
  | nil => rfl
  | cons value rest ih =>
      simp only [strings?, ofStrings, listOf?] at ih ⊢
      rw [List.map_cons, List.mapM_cons, ih]
      rfl

theorem Json.Number.toUInt64?_ofUInt64 (value : UInt64) :
    (Number.ofUInt64 value).toUInt64? = some value := by
  rw [ofUInt64]
  split
  · rfl
  · rename_i small
    have kept : value.toInt64.toInt = value.toNat := by
      rw [← Int64.toInt_toBitVec, UInt64.toBitVec_toInt64, BitVec.toInt_eq_toNat_of_lt]
      · rfl
      · rw [UInt64.toNat_toBitVec]
        omega
    rw [toUInt64?, kept, if_pos (Int.natCast_nonneg _)]
    exact congrArg some (UInt64.toUInt64_toInt64 value)

namespace Query

/-- A value whose written form gives no name twice and reads back as the value. -/
structure ReadsBack {α : Type} (write : α → Json) (read : Json → Read α) (value : α) : Prop where
  distinct : (write value).isDistinct = true
  read : read (write value) = .ok value

theorem toJson_ofJsonFields {fields : Fields Json}
    (distinct : (Json.object fields).isDistinct = true) :
    Criteria.toJson (Filter.ofJsonFields fields) = .object fields :=
  Filter.toJson_ofJson distinct

theorem readNames_ofStrings (names : List String) :
    readNames (Json.ofStrings names) = .ok (some names) := by
  change (expect (Json.strings? (Json.ofStrings names))).map some = .ok (some names)
  rw [Json.strings?_ofStrings]
  rfl

theorem readCount_countToJson (count : UInt64) :
    readCount (countToJson count) = .ok (some count) := by
  change expect ((Json.Number.ofUInt64 count).toUInt64?.map some) = .ok (some count)
  rw [Json.Number.toUInt64?_ofUInt64]
  rfl

theorem readDirection_sql (direction : SortDirection) :
    readDirection (.string direction.sql) = .ok direction := by
  cases direction <;> rfl

theorem readSort_sortToJson (sort : List (String × SortDirection)) :
    readSort (sortToJson sort) = .ok sort := by
  change readSortFields _ = _
  induction sort with
  | nil => rfl
  | cons entry rest ih =>
      rw [List.map_cons, readSortFields, readDirection_sql, ih]
      rfl

theorem isDistinct_sortToJson {sort : List (String × SortDirection)}
    (nodup : (sort.map Prod.fst).Nodup) : (sortToJson sort).isDistinct = true := by
  refine (Json.isDistinct_object _).mpr ⟨?_, fun field member => ?_⟩
  · rw [Fields.names, List.map_map]
    exact nodup
  · obtain ⟨entry, -, rfl⟩ := List.mem_map.mp member
    rfl

theorem among_optionalField {α : Type} (name : String) {value : Option α} {write : α → Json}
    (distinct : ∀ content ∈ value, (write content).isDistinct = true) :
    Among [name] (optionalField name value write) := by
  cases value with
  | none => exact .nil
  | some content => exact .single (distinct content rfl)

def ownFields (query : Query) : Fields Json :=
  optionalField "where" query.filter Criteria.toJson
    ++ optionalField "select" query.select Json.ofStrings
    ++ (if query.sort.isEmpty then [] else [("sort", sortToJson query.sort)])
    ++ optionalField "limit" query.limit countToJson
    ++ optionalField "skip" query.skip countToJson
    ++ optionalField "groupBy" query.groupBy Json.ofStrings
    ++ optionalField "sum" query.sum Json.ofStrings
    ++ optionalField "average" query.average Json.ofStrings
    ++ optionalField "min" query.min Json.ofStrings
    ++ optionalField "max" query.max Json.ofStrings
    ++ (if query.instructions.isEmpty then []
        else [("instructions", .object (instructionsToJson query.instructions))])

theorem toJson_eq (query : Query) :
    query.toJson =
      .object (query.ownFields ++ Fields.collect (Filter.toJsonEntries query.loose)) := by
  obtain ⟨_, _, _, _, _, _, _, _, _, _, _, _⟩ := query
  rfl

theorem readJoin_number (join : JoinStrategy) :
    readJoin (countToJson join.number) = .ok join := by
  have number : Json.uint64? (countToJson join.number) = some join.number :=
    Json.Number.toUInt64?_ofUInt64 join.number
  rw [readJoin, number]
  cases join <;> rfl

theorem readsBack_strategy {strategy : Strategy}
    (hints : ∀ json ∈ strategy.hints, json.isDistinct = true ∧ json ≠ .null) :
    ReadsBack strategyToJson readStrategy strategy where
  distinct := by
    have among : Among (["strategy"] ++ ["meta"])
        ([("strategy", countToJson strategy.join.number)]
          ++ optionalField "meta" strategy.hints id) :=
      (Among.single rfl).append
        (among_optionalField "meta" fun json member => (hints json member).1)
    exact among.object (by decide)
  read := by
    obtain ⟨join, kept⟩ := strategy
    cases kept with
    | none =>
        change (readJoin (countToJson join.number)).map _ = _
        rw [readJoin_number]
        rfl
    | some json =>
        have kept : readHints (some json) = some json := by
          have notNull := (hints json rfl).2
          cases json <;> first | rfl | exact absurd rfl notNull
        change (readJoin (countToJson join.number)).map _ = _
        rw [readJoin_number]
        exact congrArg (fun hints => Except.ok { join, hints : Strategy }) kept

theorem hints_of_readHints {hints : Option Json}
    (distinct : ∀ json ∈ hints, json.isDistinct = true) :
    ∀ json ∈ readHints hints, json.isDistinct = true ∧ json ≠ .null := by
  intro json member
  unfold readHints at member
  split at member
  · cases member
  · rename_i notNull
    refine ⟨distinct json member, ?_⟩
    rintro rfl
    exact notNull member

theorem readsBack_of_readStrategy {json : Json} {strategy : Strategy}
    (distinct : json.isDistinct = true) (reads : readStrategy json = .ok strategy) :
    ReadsBack strategyToJson readStrategy strategy := by
  unfold readStrategy at reads
  split at reads
  · rename_i fields
    obtain ⟨number, -, readsJoin⟩ := exists_of_bind_eq_ok reads
    obtain ⟨join, -, rfl⟩ := exists_of_map_eq_ok readsJoin
    refine readsBack_strategy (hints_of_readHints fun json found => ?_)
    exact Json.isDistinct_fields distinct _ (Fields.mem_of_get? found)
  · rename_i number rest
    obtain ⟨join, -, readsRest⟩ := exists_of_bind_eq_ok reads
    split at readsRest
    · cases readsRest
      exact readsBack_strategy fun _ member => nomatch member
    · rename_i hints
      cases readsRest
      refine readsBack_strategy (hints_of_readHints fun json found => ?_)
      cases found
      exact Json.isDistinct_items distinct _ (by simp [Json.items])
    · cases readsRest
  · cases reads

theorem instructionsToJson_eq_map (instructions : List (String × Instruction)) :
    instructionsToJson instructions =
      instructions.map fun entry => (entry.1, instructionToJson entry.2) := by
  induction instructions with
  | nil => rfl
  | cons entry rest ih => rw [instructionsToJson, ih, List.map_cons]

theorem stagesToJson_eq_map (stages : List Stage) :
    stagesToJson stages = stages.map stageToJson := by
  induction stages with
  | nil => rfl
  | cons stage rest ih => rw [stagesToJson, ih, List.map_cons]

theorem readStages_stagesToJson {stages : List Stage}
    (each : ∀ stage ∈ stages, ReadsBack stageToJson readStage stage) :
    readStages (stagesToJson stages) = .ok stages := by
  induction stages with
  | nil => rfl
  | cons stage rest ih =>
      obtain ⟨first, others⟩ := List.forall_mem_cons.mp each
      rw [stagesToJson, readStages, first.read, ih others]
      rfl

theorem readInstructions_instructionsToJson {instructions : List (String × Instruction)}
    (each : ∀ entry ∈ instructions, ReadsBack instructionToJson readInstruction entry.2) :
    readInstructions (instructionsToJson instructions) = .ok instructions := by
  induction instructions with
  | nil => rfl
  | cons entry rest ih =>
      obtain ⟨first, others⟩ := List.forall_mem_cons.mp each
      rw [instructionsToJson, readInstructions, first.read, ih others]
      rfl

theorem readsBack_instruction {strategy : Strategy} {stages : List Stage}
    (join : ReadsBack strategyToJson readStrategy strategy)
    (each : ∀ stage ∈ stages, ReadsBack stageToJson readStage stage) :
    ReadsBack instructionToJson readInstruction ⟨strategy, stages⟩ where
  distinct := by
    have array : (Json.array (stagesToJson stages)).isDistinct = true := by
      rw [stagesToJson_eq_map]
      refine (Json.isDistinct_array _).mpr fun item member => ?_
      obtain ⟨stage, isStage, rfl⟩ := List.mem_map.mp member
      exact (each stage isStage).distinct
    have among : Among (["strategy"] ++ ["instructions"])
        ([("strategy", strategyToJson strategy)]
          ++ [("instructions", .array (stagesToJson stages))]) :=
      (Among.single join.distinct).append (Among.single array)
    exact among.object (by decide)
  read := by
    have first : readInstructionField {} "strategy" (strategyToJson strategy) =
        .ok { strategy := some strategy } := by
      change (readStrategy (strategyToJson strategy)).map _ = _
      rw [join.read]
      rfl
    have second : readInstructionField { strategy := some strategy } "instructions"
        (.array (stagesToJson stages)) =
          .ok { strategy := some strategy, stages := some stages } := by
      rw [readInstructionField, if_pos rfl, readStages_stagesToJson each]
      rfl
    rw [instructionToJson, readInstruction, readInstructionFields, first]
    change ((readInstructionFields _ _).bind _) = _
    rw [readInstructionFields, second]
    rfl

theorem readStageFields_append {draft next last : StageDraft} {front back : Fields Json}
    (first : readStageFields draft front = .ok next)
    (second : readStageFields next back = .ok last) :
    readStageFields draft (front ++ back) = .ok last := by
  rw [readStageFields_eq_foldlM] at first second ⊢
  exact foldlM_append_eq_ok first second

theorem readsBack_stage {parent parentKey child childKey association : String}
    {select : Option (List String)} {criteria : Option Query}
    (back : ∀ query ∈ criteria, ReadsBack toJson ofJson query) :
    ReadsBack stageToJson readStage
      ⟨parent, parentKey, child, childKey, association, select, criteria⟩ where
  distinct := by
    have texts : Among ["parent", "parentKey", "child", "childKey", "alias"]
        [("parent", .string parent), ("parentKey", .string parentKey), ("child", .string child),
          ("childKey", .string childKey), ("alias", .string association)] :=
      ⟨.refl _, by simp [Json.isDistinct]⟩
    have chosen : Among ["select"] (optionalField "select" select Json.ofStrings) :=
      among_optionalField "select" fun names _ => Json.isDistinct_ofStrings names
    have inner : Among ["criteria"] (stageCriteriaToJson criteria) := by
      cases criteria with
      | none => exact .nil
      | some query => exact .single (back query rfl).distinct
    exact ((texts.append chosen).append inner).object (by decide)
  read := by
    have texts : readStageFields {}
        [("parent", .string parent), ("parentKey", .string parentKey), ("child", .string child),
          ("childKey", .string childKey), ("alias", .string association)] =
        .ok ⟨parent, parentKey, child, childKey, association, none, none⟩ := rfl
    have chosen : readStageFields ⟨parent, parentKey, child, childKey, association, none, none⟩
        (optionalField "select" select Json.ofStrings) =
          .ok ⟨parent, parentKey, child, childKey, association, select, none⟩ := by
      cases select with
      | none => rfl
      | some names =>
          change Except.bind ((expect ((Json.strings? _).map some)).map _) _ = _
          rw [Json.strings?_ofStrings]
          rfl
    have inner : readStageFields ⟨parent, parentKey, child, childKey, association, select, none⟩
        (stageCriteriaToJson criteria) =
          .ok ⟨parent, parentKey, child, childKey, association, select, criteria⟩ := by
      cases criteria with
      | none => rfl
      | some query =>
          have read := (back query rfl).read
          rw [toJson_eq] at read
          rw [stageCriteriaToJson, toJson_eq]
          change Except.bind ((readFields {} _).map _) _ = _
          rw [show readFields {} _ = .ok query from read]
          rfl
    rw [stageToJson, readStage, readStageFields_append (readStageFields_append texts chosen) inner]
    rfl

end Query

end QuerySql
