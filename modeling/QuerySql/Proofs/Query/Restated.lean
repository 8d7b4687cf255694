import QuerySql.Proofs.Query.Loose
import QuerySql.Proofs.Query.Unwrapped

/-!
Query objects that say the same in other places: criteria stand among the fields of a query object
or under `where`, in the query itself and in the populations at any depth.  Such query objects are
read as queries that are unwrapped alike, or fail to be read for the same reason.
-/

namespace QuerySql

namespace Query

mutual

inductive Restated : Fields Json → Fields Json → Prop
  /-- Where nothing is under `where`, the loose criteria may be; the other fields keep their order,
  and the new one has any place among them. -/
  | wrapped {fields front back : Fields Json}
      (unset : ∀ json, ("where", json) ∈ fields → json = .null)
      (others : plainFields fields = front ++ back) :
      Restated fields (front ++ ("where", .object (looseFields fields)) :: back)
  | loosened {fields fields' criteria : Fields Json}
      (present : ("where", .object criteria) ∈ fields) (filled : ("where", .null) ∉ fields)
      (others : claimedFields fields' = claimedFields fields) :
      Restated fields fields'
  | population (front back before after : Fields Json) (attr : String) {json json' : Json}
      (inside : RestatedInstruction json json') :
      Restated (front ++ ("instructions", .object (before ++ (attr, json) :: after)) :: back)
        (front ++ ("instructions", .object (before ++ (attr, json') :: after)) :: back)
  | trans {fields fields' fields'' : Fields Json} (first : Restated fields fields')
      (second : Restated fields' fields'') : Restated fields fields''

inductive RestatedInstruction : Json → Json → Prop
  | object (front back : Fields Json) (before after : List Json) {json json' : Json}
      (inside : RestatedStage json json') :
      RestatedInstruction
        (.object (front ++ ("instructions", .array (before ++ json :: after)) :: back))
        (.object (front ++ ("instructions", .array (before ++ json' :: after)) :: back))
  | array (strategy : Json) (before after : List Json) {json json' : Json}
      (inside : RestatedStage json json') :
      RestatedInstruction (.array [strategy, .array (before ++ json :: after)])
        (.array [strategy, .array (before ++ json' :: after)])

inductive RestatedStage : Json → Json → Prop
  | object (front back : Fields Json) {criteria criteria' : Fields Json}
      (inside : Restated criteria criteria') :
      RestatedStage (.object (front ++ ("criteria", .object criteria) :: back))
        (.object (front ++ ("criteria", .object criteria') :: back))
  | array (parent parentKey child childKey association select : Json)
      {criteria criteria' : Fields Json} (inside : Restated criteria criteria') :
      RestatedStage
        (.array [parent, parentKey, child, childKey, association, select, .object criteria])
        (.array [parent, parentKey, child, childKey, association, select, .object criteria'])

end

theorem ne_where_of_mem_plainFields {fields : Fields Json} {field : String × Json}
    (member : field ∈ plainFields fields) : field.1 ≠ "where" := by
  simpa using (List.mem_filter.mp member).2

theorem unwrapped_readFields_wrapped {fields front back : Fields Json}
    (unset : ∀ json, ("where", json) ∈ fields → json = .null)
    (others : plainFields fields = front ++ back) :
    (readFields {} fields).map unwrapped =
      (readFields {} (front ++ ("where", .object (looseFields fields)) :: back)).map unwrapped := by
  have plain : ∀ field ∈ front ++ back, field.1 ≠ "where" := fun field member =>
    ne_where_of_mem_plainFields (others ▸ member)
  have unsetClaimed : ∀ json, ("where", json) ∈ claimedFields fields → json = .null :=
    fun json member => unset json (List.mem_of_mem_filter member)
  -- Both are read like the plain fields, and then the same criteria are put in different places.
  have readsLoose : readFields {} fields = (readFields {} (front ++ back)).map fun query =>
      { query with filter := none, loose := Filter.ofJsonFields (looseFields fields) } := by
    rw [readFields_eq_claimed, readFields_erase unsetClaimed rfl, ← plainFields, others]
    refine (congrArg _ (readFields_setFilter none plain {})).trans ?_
    cases readFields {} (front ++ back) <;> rfl
  have readsWrapped : readFields {} (front ++ ("where", .object (looseFields fields)) :: back) =
      (readFields {} (front ++ back)).map fun query =>
        { query with filter := some (Filter.ofJsonFields (looseFields fields)) } := by
    have plainBack : ∀ field ∈ back, field.1 ≠ "where" := fun field member =>
      plain field (List.mem_append_right front member)
    rw [readFields_eq_foldlM, readFields_eq_foldlM, List.foldlM_append, List.foldlM_append,
      ← readFields_eq_foldlM]
    cases readFields {} front with
    | error error => rfl
    | ok query =>
        have set := readFields_setFilter (some (Filter.ofJsonFields (looseFields fields))) plainBack
          query
        rw [readFields_eq_foldlM, readFields_eq_foldlM] at set
        exact set
  rw [readsLoose, readsWrapped]
  cases readFields {} (front ++ back) with
  | error error => rfl
  | ok query => exact congrArg Except.ok (unwrapped_wrap query _).symm

theorem unwrapped_readFields_loosened {fields fields' criteria : Fields Json}
    (present : ("where", .object criteria) ∈ fields) (filled : ("where", .null) ∉ fields)
    (others : claimedFields fields' = claimedFields fields) :
    (readFields {} fields).map unwrapped = (readFields {} fields').map unwrapped := by
  rw [readFields_eq_claimed {} fields, readFields_eq_claimed {} fields', others]
  cases reads : readFields {} (claimedFields fields) with
  | error error => rfl
  | ok query =>
      have isSome : query.filter.isSome :=
        isSome_filter_of_readFields (fun member => filled (List.mem_of_mem_filter member))
          (.inr ⟨_, List.mem_filter.mpr ⟨present, rfl⟩⟩) reads
      exact congrArg Except.ok (unwrapped_loosen isSome _ _)

theorem unwrappedWithin_setInstructions {query : Query}
    {instructions instructions' : List (String × Instruction)}
    (same : unwrappedInstructions instructions = unwrappedInstructions instructions') :
    unwrappedWithin { query with instructions } =
      unwrappedWithin { query with instructions := instructions' } := by
  simp only [unwrappedWithin, same]

theorem exists_of_unwrappedWithin_eq {query query' : Query}
    (same : query.unwrappedWithin = query'.unwrappedWithin) :
    ∃ instructions, query' = { query with instructions } ∧
      unwrappedInstructions instructions = unwrappedInstructions query.instructions := by
  cases query
  cases query'
  simp only [unwrappedWithin, Query.mk.injEq] at same
  obtain ⟨rfl, rfl, rfl, rfl, rfl, rfl, rfl, rfl, rfl, rfl, same, rfl⟩ := same
  exact ⟨_, rfl, same.symm⟩

theorem unwrappedWithin_readField (field : String × Json) (query query' : Query)
    (same : query.unwrappedWithin = query'.unwrappedWithin) :
    (readField query field.1 field.2).map unwrappedWithin =
      (readField query' field.1 field.2).map unwrappedWithin := by
  obtain ⟨name, json⟩ := field
  obtain ⟨instructions, rfl, sameInstructions⟩ := exists_of_unwrappedWithin_eq same
  by_cases isInstructions : name = "instructions"
  · subst isInstructions
    cases json <;> rfl
  · have reads : readField { query with instructions } name json =
        (readField query name json).map fun query => { query with instructions } :=
      readField_comm (fun _ _ => .setInstructions instructions isInstructions) query
    rw [reads]
    cases readsFirst : readField query name json with
    | error error => rfl
    | ok next =>
        have kept := (fieldRead_of_readField readsFirst).instructions_eq isInstructions
        rw [← kept] at sameInstructions
        exact congrArg Except.ok (unwrappedWithin_setInstructions sameInstructions).symm

theorem unwrapped_readInstructions {json json' : Json}
    (inside : (readInstruction json).map unwrappedInstruction =
      (readInstruction json').map unwrappedInstruction)
    (before after : Fields Json) (attr : String) :
    (readInstructions (before ++ (attr, json) :: after)).map unwrappedInstructions =
      (readInstructions (before ++ (attr, json') :: after)).map unwrappedInstructions := by
  induction before with
  | nil =>
      refine map_bind_congr inside fun instruction instruction' same => ?_
      cases readInstructions after with
      | error error => rfl
      | ok others =>
          exact congrArg (fun first => Except.ok ((attr, first) :: unwrappedInstructions others))
            same
  | cons field rest ih =>
      rw [List.cons_append, List.cons_append, readInstructions, readInstructions]
      cases readInstruction field.2 with
      | error error => rfl
      | ok instruction =>
          exact map_map_congr ih fun _ _ =>
            congrArg ((field.1, unwrappedInstruction instruction) :: ·)

theorem unwrapped_readFields_population {json json' : Json}
    (inside : (readInstruction json).map unwrappedInstruction =
      (readInstruction json').map unwrappedInstruction)
    (front back before after : Fields Json) (attr : String) :
    (readFields {}
        (front ++ ("instructions", .object (before ++ (attr, json) :: after)) :: back)).map
          unwrapped =
      (readFields {}
        (front ++ ("instructions", .object (before ++ (attr, json') :: after)) :: back)).map
          unwrapped := by
  rw [readFields_eq_foldlM, readFields_eq_foldlM]
  refine map_eq_of_map_eq (map_foldlM_replace unwrappedWithin_readField ?_ rfl front back)
    fun query query' same => by rw [unwrapped_eq, unwrapped_eq, same]
  intro query query' same
  obtain ⟨instructions, rfl, -⟩ := exists_of_unwrappedWithin_eq same
  exact map_map_congr (unwrapped_readInstructions inside before after attr) fun _ _ =>
    unwrappedWithin_setInstructions

def InstructionDraft.unwrapped (draft : InstructionDraft) : InstructionDraft :=
  { draft with stages := draft.stages.map unwrappedStages }

theorem InstructionDraft.finish_unwrapped (draft : InstructionDraft) :
    draft.finish.map unwrappedInstruction = draft.unwrapped.finish := by
  obtain ⟨strategy, stages⟩ := draft
  cases strategy <;> cases stages <;> rfl

theorem unwrapped_readInstructionField (field : String × Json) (draft draft' : InstructionDraft)
    (same : draft.unwrapped = draft'.unwrapped) :
    (readInstructionField draft field.1 field.2).map InstructionDraft.unwrapped =
      (readInstructionField draft' field.1 field.2).map InstructionDraft.unwrapped := by
  obtain ⟨name, json⟩ := field
  obtain ⟨strategy, stages⟩ := draft
  obtain ⟨strategy', stages'⟩ := draft'
  obtain ⟨rfl, sameStages⟩ := InstructionDraft.mk.inj same
  have plain : ∀ json, (readPlainInstructionField ⟨strategy, stages⟩ name json).map
        InstructionDraft.unwrapped =
      (readPlainInstructionField ⟨strategy, stages'⟩ name json).map
        InstructionDraft.unwrapped := by
    intro json
    unfold readPlainInstructionField
    split
    · cases readStrategy json with
      | error error => rfl
      | ok strategy =>
          exact congrArg (fun stages => Except.ok (InstructionDraft.mk (some strategy) stages))
            sameStages
    · split
      · rfl
      · exact congrArg Except.ok same
  cases json
  case array items =>
    rw [readInstructionField, readInstructionField]
    split
    · rfl
    · exact plain _
  all_goals exact plain _

theorem unwrapped_readStages {json json' : Json}
    (inside : (readStage json).map unwrappedStage = (readStage json').map unwrappedStage)
    (before after : List Json) :
    (readStages (before ++ json :: after)).map unwrappedStages =
      (readStages (before ++ json' :: after)).map unwrappedStages := by
  induction before with
  | nil =>
      refine map_bind_congr inside fun stage stage' same => ?_
      cases readStages after with
      | error error => rfl
      | ok others => exact congrArg (fun first => Except.ok (first :: unwrappedStages others)) same
  | cons item rest ih =>
      rw [List.cons_append, List.cons_append, readStages, readStages]
      cases readStage item with
      | error error => rfl
      | ok stage => exact map_map_congr ih fun _ _ => congrArg (unwrappedStage stage :: ·)

theorem unwrapped_readInstruction {json json' : Json}
    (inside : (readStage json).map unwrappedStage = (readStage json').map unwrappedStage)
    (front back : Fields Json) (before after : List Json) :
    (readInstruction
        (.object (front ++ ("instructions", .array (before ++ json :: after)) :: back))).map
          unwrappedInstruction =
      (readInstruction
        (.object (front ++ ("instructions", .array (before ++ json' :: after)) :: back))).map
          unwrappedInstruction := by
  rw [readInstruction, readInstruction, readInstructionFields_eq_foldlM,
    readInstructionFields_eq_foldlM]
  refine map_bind_congr (map_foldlM_replace unwrapped_readInstructionField ?_ rfl front back)
    fun draft draft' same => by
      rw [draft.finish_unwrapped, draft'.finish_unwrapped, same]
  intro draft draft' same
  refine map_map_congr (unwrapped_readStages inside before after) fun _ _ sameStages => ?_
  obtain ⟨sameStrategy, -⟩ := InstructionDraft.mk.inj same
  exact congrArg₂ InstructionDraft.mk sameStrategy (congrArg some sameStages)

def StageDraft.unwrapped (draft : StageDraft) : StageDraft :=
  { draft with criteria := unwrappedCriteria draft.criteria }

theorem StageDraft.finish_unwrapped (draft : StageDraft) :
    draft.finish.map unwrappedStage = draft.unwrapped.finish := by
  obtain ⟨parent, parentKey, child, childKey⟩ := draft
  cases parent <;> cases parentKey <;> cases child <;> cases childKey <;> rfl

theorem StageDraft.exists_of_unwrapped_eq {draft draft' : StageDraft}
    (same : draft.unwrapped = draft'.unwrapped) :
    ∃ criteria, draft' = { draft with criteria } ∧
      unwrappedCriteria criteria = unwrappedCriteria draft.criteria := by
  cases draft
  cases draft'
  simp only [unwrapped, StageDraft.mk.injEq] at same
  obtain ⟨rfl, rfl, rfl, rfl, rfl, rfl, same⟩ := same
  exact ⟨_, rfl, same.symm⟩

theorem readPlainStageField_setCriteria {name : String} (other : name ≠ "criteria")
    (draft : StageDraft) (criteria : Option Query) (json : Json) :
    readPlainStageField { draft with criteria } name json =
      (readPlainStageField draft name json).map fun draft => { draft with criteria } := by
  simp only [readPlainStageField, other, if_false]
  split_ifs
  case neg => rfl
  all_goals rw [map_map]

theorem unwrapped_readStageField (field : String × Json) (draft draft' : StageDraft)
    (same : draft.unwrapped = draft'.unwrapped) :
    (readStageField draft field.1 field.2).map StageDraft.unwrapped =
      (readStageField draft' field.1 field.2).map StageDraft.unwrapped := by
  obtain ⟨name, json⟩ := field
  obtain ⟨criteria, rfl, sameCriteria⟩ := StageDraft.exists_of_unwrapped_eq same
  by_cases isCriteria : name = "criteria"
  · subst isCriteria
    cases json <;> rfl
  · have plain : ∀ draft, readStageField draft name json = readPlainStageField draft name json := by
      intro draft
      cases json
      case object fields => rw [readStageField, if_neg isCriteria]
      all_goals rfl
    have set := fun criteria => readPlainStageField_setCriteria isCriteria draft criteria json
    rw [plain, plain, set criteria]
    refine (congrArg (Except.map _) (set draft.criteria)).trans ?_
    cases readPlainStageField draft name json with
    | error error => rfl
    | ok next =>
        exact congrArg (fun criteria => Except.ok { next with criteria }) sameCriteria.symm

theorem unwrapped_readStage {criteria criteria' : Fields Json}
    (inside : (readFields {} criteria).map unwrapped = (readFields {} criteria').map unwrapped)
    (front back : Fields Json) :
    (readStage (.object (front ++ ("criteria", .object criteria) :: back))).map unwrappedStage =
      (readStage (.object (front ++ ("criteria", .object criteria') :: back))).map
        unwrappedStage := by
  rw [readStage, readStage, readStageFields_eq_foldlM, readStageFields_eq_foldlM]
  refine map_bind_congr (map_foldlM_replace unwrapped_readStageField ?_ rfl front back)
    fun draft draft' same => by
      rw [draft.finish_unwrapped, draft'.finish_unwrapped, same]
  intro draft draft' same
  obtain ⟨others, rfl, -⟩ := StageDraft.exists_of_unwrapped_eq same
  exact map_map_congr inside fun query query' sameQuery =>
    congrArg (fun query => { draft with criteria := some query }) sameQuery

theorem readInstruction_array (strategy stages : Json) :
    readInstruction (.array [strategy, stages]) =
      readInstruction (.object ([("strategy", strategy)] ++ [("instructions", stages)])) := rfl

theorem readStage_array (parent parentKey child childKey association select criteria : Json) :
    readStage (.array [parent, parentKey, child, childKey, association, select, criteria]) =
      readStage (.object ([("parent", parent), ("parentKey", parentKey), ("child", child),
        ("childKey", childKey), ("alias", association), ("select", select)] ++
          [("criteria", criteria)])) := rfl

mutual

theorem Restated.unwrapped_readFields {fields fields' : Fields Json} :
    Restated fields fields' →
      (readFields {} fields).map unwrapped = (readFields {} fields').map unwrapped
  | .wrapped unset others => unwrapped_readFields_wrapped unset others
  | .loosened present filled others => unwrapped_readFields_loosened present filled others
  | .population front back before after attr inside =>
      unwrapped_readFields_population inside.unwrapped_readInstruction front back before after attr
  | .trans first second => first.unwrapped_readFields.trans second.unwrapped_readFields

theorem RestatedInstruction.unwrapped_readInstruction {json json' : Json} :
    RestatedInstruction json json' →
      (readInstruction json).map unwrappedInstruction =
        (readInstruction json').map unwrappedInstruction
  | .object front back before after inside =>
      Query.unwrapped_readInstruction inside.unwrapped_readStage front back before after
  | .array strategy before after inside => by
      rw [readInstruction_array, readInstruction_array]
      exact Query.unwrapped_readInstruction inside.unwrapped_readStage _ [] before after

theorem RestatedStage.unwrapped_readStage {json json' : Json} :
    RestatedStage json json' →
      (readStage json).map unwrappedStage = (readStage json').map unwrappedStage
  | .object front back inside => Query.unwrapped_readStage inside.unwrapped_readFields front back
  | .array parent parentKey child childKey association select inside => by
      rw [readStage_array, readStage_array]
      exact Query.unwrapped_readStage inside.unwrapped_readFields _ []

end

end Query

end QuerySql
