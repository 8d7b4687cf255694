import QuerySql.Proofs.Query.Reading

namespace QuerySql

namespace Query

def claimedFields (fields : Fields Json) : Fields Json :=
  fields.filter fun field => fieldNames.contains field.1

/-- The fields that a query claims for anything but its criteria. -/
def plainFields (fields : Fields Json) : Fields Json :=
  (claimedFields fields).erase "where"

namespace FieldRead

variable {query query' : Query} {name : String} {json : Json}

theorem setFilter (filter : Option Criteria) (other : name ≠ "where")
    (read : FieldRead query name json query') :
    FieldRead { query with filter } name json { query' with filter } := by
  cases read
  case filter => exact absurd rfl other
  case loose unclaimed => exact .loose unclaimed
  case noInstructions => exact .noInstructions
  all_goals
    constructor
    assumption

theorem setLoose (loose : Criteria) (claimed : name ∈ fieldNames)
    (read : FieldRead query name json query') :
    FieldRead { query with loose } name json { query' with loose } := by
  cases read
  case loose unclaimed => exact absurd claimed unclaimed
  case noInstructions => exact .noInstructions
  all_goals
    constructor
    assumption

theorem setInstructions (instructions : List (String × Instruction))
    (other : name ≠ "instructions") (read : FieldRead query name json query') :
    FieldRead { query with instructions } name json { query' with instructions } := by
  cases read
  case instructions => exact absurd rfl other
  case noInstructions => exact absurd rfl other
  case loose unclaimed => exact .loose unclaimed
  all_goals
    constructor
    assumption

theorem filter_eq (other : name ≠ "where") (read : FieldRead query name json query') :
    query'.filter = query.filter := by
  cases read
  case filter => exact absurd rfl other
  all_goals rfl

theorem isSome_filter (isFilter : name = "where") (filled : json ≠ .null)
    (read : FieldRead query name json query') : query'.filter.isSome := by
  cases read
  case filter filter reads =>
    cases json
    case null => exact absurd rfl filled
    case object fields =>
      cases reads
      rfl
    all_goals cases reads
  case loose unclaimed => exact absurd (isFilter ▸ by decide) unclaimed
  all_goals exact absurd isFilter (by decide)

theorem instructions_eq (other : name ≠ "instructions")
    (read : FieldRead query name json query') : query'.instructions = query.instructions := by
  cases read
  case instructions => exact absurd rfl other
  case noInstructions => exact absurd rfl other
  all_goals rfl

theorem loose_eq (claimed : name ∈ fieldNames) (read : FieldRead query name json query') :
    query'.loose = query.loose := by
  cases read
  case loose unclaimed => exact absurd claimed unclaimed
  all_goals rfl

end FieldRead

variable {fields : Fields Json}

theorem readFields_comm {change : Query → Query}
    (comm : ∀ field ∈ fields, ∀ query query', FieldRead query field.1 field.2 query' →
      FieldRead (change query) field.1 field.2 (change query'))
    (query : Query) : readFields (change query) fields = (readFields query fields).map change := by
  induction fields generalizing query with
  | nil => rfl
  | cons field rest ih =>
      obtain ⟨first, others⟩ := List.forall_mem_cons.mp comm
      rw [readFields, readFields, readField_comm first]
      cases readField query field.1 field.2 with
      | error error => rfl
      | ok next => exact ih others next

theorem readFields_setFilter (filter : Option Criteria)
    (others : ∀ field ∈ fields, field.1 ≠ "where") (query : Query) :
    readFields { query with filter } fields =
      (readFields query fields).map fun query => { query with filter } :=
  readFields_comm (fun field member _ _ => .setFilter filter (others field member)) query

theorem readFields_setLoose (loose : Criteria) (claimed : ∀ field ∈ fields, field.1 ∈ fieldNames)
    (query : Query) :
    readFields { query with loose } fields =
      (readFields query fields).map fun query => { query with loose } :=
  readFields_comm (fun field member _ _ => .setLoose loose (claimed field member)) query

theorem claimed_of_mem_claimedFields {field : String × Json}
    (member : field ∈ claimedFields fields) : field.1 ∈ fieldNames := by
  simpa using (List.mem_filter.mp member).2

theorem readFields_eq_claimed (query : Query) (fields : Fields Json) :
    readFields query fields = (readFields query (claimedFields fields)).map fun own =>
      { own with loose := query.loose ++ Filter.ofJsonFields (looseFields fields) } := by
  induction fields generalizing query with
  | nil =>
      rw [looseFields, List.filter_nil, Filter.ofJsonFields, List.append_nil]
      cases query
      rfl
  | cons field rest ih =>
      obtain ⟨name, json⟩ := field
      by_cases claimed : name ∈ fieldNames
      · have ownCons : claimedFields ((name, json) :: rest) =
            (name, json) :: claimedFields rest := by
          simp [claimedFields, claimed]
        have looseCons : looseFields ((name, json) :: rest) = looseFields rest := by
          simp [looseFields, claimed]
        rw [ownCons, looseCons, readFields, readFields]
        cases reads : readField query name json with
        | error error => rfl
        | ok next =>
            have sameLoose := (fieldRead_of_readField reads).loose_eq claimed
            rw [← sameLoose]
            exact ih next
      · have ownCons : claimedFields ((name, json) :: rest) = claimedFields rest := by
          simp [claimedFields, claimed]
        have looseCons : looseFields ((name, json) :: rest) = (name, json) :: looseFields rest := by
          simp [looseFields, claimed]
        rw [ownCons, looseCons, readFields, readField_of_notMem query json claimed]
        refine (ih _).trans ?_
        rw [readFields_setLoose _ fun _ => claimed_of_mem_claimedFields]
        cases readFields query (claimedFields rest) with
        | error error => rfl
        | ok own =>
            rw [Filter.ofJsonFields, ← List.append_cons]
            rfl

theorem readFields_erase {query : Query} (unset : ∀ json, ("where", json) ∈ fields → json = .null)
    (unfiltered : query.filter = none) :
    readFields query fields = readFields query (fields.erase "where") := by
  induction fields generalizing query with
  | nil => rfl
  | cons field rest ih =>
      obtain ⟨name, json⟩ := field
      have unsetRest : ∀ json, ("where", json) ∈ rest → json = .null :=
        fun json member => unset json (.tail _ member)
      by_cases isFilter : name = "where"
      · subst isFilter
        obtain rfl := unset json (.head _)
        have same : readField query "where" .null = .ok query := by
          cases query
          cases unfiltered
          rfl
        rw [readFields, same]
        exact ih unsetRest unfiltered
      · have eraseCons : Fields.erase ((name, json) :: rest) "where" =
            (name, json) :: Fields.erase rest "where" := by
          simp [Fields.erase, isFilter]
        rw [eraseCons, readFields, readFields]
        cases reads : readField query name json with
        | error error => rfl
        | ok next =>
            have kept := (fieldRead_of_readField reads).filter_eq isFilter
            exact ih unsetRest (kept.trans unfiltered)

theorem isSome_filter_of_readFields {query query' : Query} (filled : ("where", .null) ∉ fields)
    (present : query.filter.isSome ∨ ∃ json, ("where", json) ∈ fields)
    (reads : readFields query fields = .ok query') : query'.filter.isSome := by
  induction fields generalizing query with
  | nil =>
      cases reads
      refine present.resolve_right ?_
      rintro ⟨json, member⟩
      cases member
  | cons field rest ih =>
      obtain ⟨name, json⟩ := field
      rw [List.mem_cons, not_or] at filled
      rw [readFields] at reads
      obtain ⟨next, readsField, readsRest⟩ := exists_of_bind_eq_ok reads
      have read := fieldRead_of_readField readsField
      refine ih filled.2 ?_ readsRest
      by_cases isFilter : name = "where"
      · refine .inl (read.isSome_filter isFilter fun isNull => filled.1 ?_)
        rw [isFilter, isNull]
      · rw [read.filter_eq isFilter]
        refine present.imp_right (Exists.imp fun found member => ?_)
        exact (List.mem_cons.mp member).resolve_left fun same =>
          isFilter (congrArg Prod.fst same).symm

end Query

end QuerySql
