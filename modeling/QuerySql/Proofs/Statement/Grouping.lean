import QuerySql.Proofs.Statement.Items

namespace QuerySql

open Sql Sql.Fragment

variable {dialect : Dialect} {schema : Schema} {table : Table} {query : Query}

namespace Query

def calculated (query : Query) : Calculation → List String
  | .sum => query.sum.getD []
  | .average => query.average.getD []
  | .min => query.min.getD []
  | .max => query.max.getD []

def requested (query : Query) : List (Calculation × String) :=
  [Calculation.sum, .average, .min, .max].flatMap fun calculation =>
    (query.calculated calculation).map fun key => (calculation, key)

/-- What is missing from a query with groups or calculations: a calculation, or the groups of the
first one. -/
def groupingFault? (query : Query) : Option Error :=
  match query.requested with
  | [] => some .missingCalculation
  | (first, _) :: _ =>
      if query.groupBy.getD [] = [] then some (.missingGroupBy first) else none

theorem requested_eq_nil_iff :
    query.requested = [] ↔ ∀ calculation, query.calculated calculation = [] := by
  simp only [requested, List.flatMap_eq_nil_iff, List.map_eq_nil_iff]
  refine ⟨fun none calculation => none calculation ?_, fun none calculation _ => none calculation⟩
  cases calculation <;> simp

theorem groupingFault?_eq_none_iff :
    query.groupingFault? = none ↔
      query.groupBy.getD [] ≠ [] ∧ ∃ calculation, query.calculated calculation ≠ [] := by
  have someAsked : (∃ calculation, query.calculated calculation ≠ []) ↔ query.requested ≠ [] := by
    rw [ne_eq, requested_eq_nil_iff, not_forall]
  rw [someAsked, groupingFault?]
  cases query.requested with
  | nil => simp
  | cons first rest => simp

end Query

namespace Selection

theorem ne_nil_of_mem_calculations {entry : Calculation × List String}
    (member : entry ∈ calculations query) : entry.2 ≠ [] := by
  obtain ⟨⟨calculation, keys⟩, _, picked⟩ := List.mem_filterMap.mp member
  match keys with
  | none | some [] => cases picked
  | some (key :: rest) =>
      cases picked
      exact List.cons_ne_nil key rest

theorem requested_eq :
    query.requested =
      (calculations query).flatMap fun entry => entry.2.map fun key => (entry.1, key) := by
  rw [calculations, List.filterMap_eq_flatMap_toList, List.flatMap_assoc]
  show [(Calculation.sum, query.sum), (.average, query.average), (.min, query.min),
      (.max, query.max)].flatMap (fun entry => (entry.2.getD []).map fun key => (entry.1, key)) = _
  refine congrArg (fun keysOf => List.flatMap keysOf _) (funext fun (calculation, keys) => ?_)
  match keys with
  | none | some [] => rfl
  | some (key :: rest) => exact (List.append_nil _).symm

theorem failure?_aggregate : failure? (aggregate table query) = query.groupingFault? := by
  rw [aggregate, Query.groupingFault?, requested_eq]
  cases made : calculations query with
  | nil => rfl
  | cons entry rest =>
      obtain ⟨first, keys⟩ := entry
      have keyed : keys ≠ [] := ne_nil_of_mem_calculations (made ▸ List.mem_cons_self)
      obtain ⟨key, others, rfl⟩ := List.exists_cons_of_ne_nil keyed
      match query.groupBy with
      | none | some [] => rfl
      | some (group :: groups) => rfl

theorem aggregate_eq {entries : List Projected} (compiled : aggregate table query = .ok entries) :
    entries = groupEntries table (query.groupBy.getD [])
      ++ query.requested.map fun asked =>
        .calculation asked.1 (table.columnRef asked.2) asked.2 := by
  have asked : query.requested.map (fun asked =>
      Projected.calculation asked.1 (table.columnRef asked.2) asked.2) =
        (calculations query).flatMap fun entry => entry.2.map fun key =>
          .calculation entry.1 (table.columnRef key) key := by
    rw [requested_eq, List.map_flatMap]
    simp only [List.map_map, Function.comp_def]
  rw [asked]
  rw [aggregate] at compiled
  cases made : calculations query with
  | nil =>
      rw [made] at compiled
      cases compiled
  | cons entry rest =>
      rw [made] at compiled
      cases isGrouped : query.groupBy with
      | none =>
          rw [isGrouped] at compiled
          cases compiled
      | some groups =>
          rw [isGrouped] at compiled
          cases groups with
          | nil => cases compiled
          | cons group others => exact (Except.ok.inj compiled).symm

end Selection

namespace Table

def groupText (table : Table) (quote : Char) (key : String) : String :=
  if (table.resolve? key).isSome then (table.columnRef key).text quote else key

/-- The item of a projection that reads what a key groups by.  What is no column gets a name. -/
def groupItem (table : Table) (quote : Char) (index : Nat) (key : String) : String :=
  if (table.resolve? key).isSome then table.groupText quote key
  else table.groupText quote key ++ " as group" ++ Text.decimal index

def calculationItem (table : Table) (dialect : Dialect) (calculation : Calculation)
    (key : String) : String :=
  let call := calculation.function ++ "(" ++ (table.columnRef key).text dialect.quote ++ ")"
  (if dialect.casting && calculation.isCast then "CAST(" ++ call ++ " AS float)" else call)
    ++ " AS " ++ key

def grouping (table : Table) (quote : Char) (keys : List String) : String :=
  if keys = [] then ""
  else " GROUP BY " ++ String.intercalate ", " (keys.map (table.groupText quote))

def ordering (table : Table) (dialect : Dialect) (query : Query) : String :=
  Fragment.text dialect (Tail.of table { query with groupBy := none }).fragments

variable (table : Table) (key : String)

theorem text_groupKey :
    Fragment.text dialect (table.groupKey key).fragments = table.groupText dialect.quote key := by
  rw [groupKey, groupText]
  cases table.resolve? key with
  | none => exact String.append_empty
  | some entry => exact ColumnRef.text_fragments _

theorem text_group (index : Nat) :
    (Projected.group (table.groupKey key) index).text dialect =
      table.groupItem dialect.quote index key := by
  rw [groupKey, groupItem, groupText]
  cases table.resolve? key with
  | none =>
      simp [Projected.text, Projected.fragments, Fragment.text, emitAll_cons, emit,
        String.append_assoc]
  | some entry => exact ColumnRef.text_fragments _

theorem text_calculation (calculation : Calculation) :
    (Projected.calculation calculation (table.columnRef key) key).text dialect =
      table.calculationItem dialect calculation key := by
  cases cast : dialect.casting && calculation.isCast <;>
    simp only [Projected.text, Projected.fragments, calculationItem, cast, ColumnRef.fragments,
      ColumnRef.text, Fragment.text, emitAll_cons, emitAll_nil, emit, List.cons_append,
      List.nil_append, if_true, Bool.false_eq_true, if_false, String.append_assoc,
      String.append_empty]

end Table

namespace Tail

theorem text_listClause_append {keyword : String} {entries : List (List Fragment)}
    (bindNothing : ∀ entry ∈ entries, bound entry = []) (back : List Fragment) :
    Fragment.text dialect (listClause keyword entries ++ back) =
      (if entries = [] then ""
        else keyword ++ String.intercalate ", " (entries.map (Fragment.text dialect)))
        ++ Fragment.text dialect back := by
  rw [listClause]
  cases entries with
  | nil => exact String.empty_append.symm
  | cons entry rest =>
      rw [List.isEmpty_cons, if_neg Bool.false_ne_true, if_neg (List.cons_ne_nil entry rest),
        List.cons_append, text_fixed, text_separated_append (by decide) bindNothing,
        String.append_assoc]

theorem text_of (table : Table) (query : Query) :
    Fragment.text dialect (Tail.of table query).fragments =
      table.grouping dialect.quote (query.groupBy.getD []) ++ table.ordering dialect query := by
  have bindNothing : ∀ entry ∈ ((query.groupBy.getD []).map table.groupKey).map GroupKey.fragments,
      bound entry = [] := by
    intro entry member
    obtain ⟨key, _, rfl⟩ := List.mem_map.mp member
    cases key <;> rfl
  have split : (Tail.of table query).fragments =
      listClause " GROUP BY " (((query.groupBy.getD []).map table.groupKey).map GroupKey.fragments)
        ++ (Tail.of table { query with groupBy := none }).fragments := by
    simp only [fragments, Tail.of, List.append_assoc]
    rfl
  rw [split, text_listClause_append bindNothing, Table.grouping, Table.ordering]
  simp only [List.map_eq_nil_iff, List.map_map, Function.comp_def, Table.text_groupKey]

end Tail

theorem Conditions.tail_write {conditions : Conditions}
    (compiled : Conditions.of schema table query = .ok conditions) :
    (conditions.write dialect).tail =
      table.grouping dialect.quote (query.groupBy.getD []) ++ table.ordering dialect query := by
  obtain ⟨predicates, _, rfl⟩ := exists_of_map_eq_ok compiled
  exact Tail.text_of table query

theorem Selection.failure?_of_isAggregate (isAggregate : query.isAggregate) :
    failure? (Selection.of schema table query) = query.groupingFault? := by
  rw [Selection.of, if_pos isAggregate, failure?_map, failure?_aggregate]

theorem Selection.text_groupEntries (keys : List String) :
    (groupEntries table keys).map (Projected.text dialect) =
      keys.mapIdx (table.groupItem dialect.quote) := by
  refine List.ext_getElem? fun index => ?_
  simp only [groupEntries, List.getElem?_map, List.getElem?_mapIdx, Option.map_map,
    Function.comp_def, Table.text_group]

theorem Selection.text_of_isAggregate {selection : Selection} (isAggregate : query.isAggregate)
    (selected : Selection.of schema table query = .ok selection) :
    Fragment.text dialect (selection.fragments dialect) =
      "SELECT " ++ String.intercalate ", "
          ((query.groupBy.getD []).mapIdx (table.groupItem dialect.quote)
            ++ query.requested.map fun (calculation, key) =>
              table.calculationItem dialect calculation key)
        ++ " FROM " ++ Table.sourceText dialect table.name ++ " " := by
  rw [Selection.of, if_pos isAggregate] at selected
  obtain ⟨entries, compiled, rfl⟩ := exists_of_map_eq_ok selected
  rw [Selection.text_fragments, Selection.aggregate_eq compiled, List.map_append,
    text_groupEntries, List.map_map]
  simp only [Function.comp_def, Table.text_calculation]

theorem Query.groupBy_of_not_isAggregate (plain : query.isAggregate = false) :
    query.groupBy = none := by
  simp only [isAggregate, Bool.or_eq_false_iff, Option.isSome_eq_false_iff,
    Option.isNone_iff_eq_none] at plain
  exact plain.1.1.1.1

/-- The entries that rows are grouped by, beside the items that read them: there is one of each for
every key, and they are the same where the table knows the key. -/
structure Table.GroupsAlike (table : Table) (quote : Char) (keys items groups : List String) :
    Prop where
  itemsLength : items.length = keys.length
  groupsLength : groups.length = keys.length
  known : ∀ (index : Nat) (key : String), keys[index]? = some key → (table.resolve? key).isSome →
    groups[index]? = some ((table.columnRef key).text quote) ∧ items[index]? = groups[index]?
  unknown : ∀ (index : Nat) (key : String), keys[index]? = some key →
    (table.resolve? key).isSome = false →
    groups[index]? = some key ∧ items[index]? = some (key ++ " as group" ++ Text.decimal index)

theorem Table.groupsAlike (table : Table) (quote : Char) (keys : List String) :
    table.GroupsAlike quote keys (keys.mapIdx (table.groupItem quote))
      (keys.map (table.groupText quote)) where
  itemsLength := List.length_mapIdx
  groupsLength := List.length_map _
  known := by
    intro index key isKey isKnown
    rw [List.getElem?_mapIdx, List.getElem?_map, isKey, Option.map_some, Option.map_some, groupItem,
      if_pos isKnown, groupText, if_pos isKnown]
    exact ⟨rfl, rfl⟩
  unknown := by
    intro index key isKey isUnknown
    rw [List.getElem?_mapIdx, List.getElem?_map, isKey, Option.map_some, Option.map_some, groupItem,
      isUnknown, groupText, isUnknown]
    exact ⟨rfl, rfl⟩

theorem Population.groups_eq_nil {attr : String} {instruction : Instruction}
    {population : Population}
    (compiled : of? schema attr instruction = .ok (some population))
    (plain : ∀ stage ∈ instruction.childStage?, (stage.criteria.getD {}).isAggregate = false) :
    population.conditions.tail.groups = [] := by
  obtain ⟨_, stage, _, child, found, _, _, _, isStage, _, _, conditionsOf⟩ :=
    (built_of_of? compiled).exists_conditions
  obtain ⟨predicates, _, isConditions⟩ := exists_of_map_eq_ok conditionsOf
  rw [← isConditions, Tail.of, groupBy_sortedCriteria,
    Query.groupBy_of_not_isAggregate (plain stage isStage)]
  rfl

namespace Statement

variable {name : String}

/-- The projection of a query with groups or calculations needs both.  Then the query groups by as
many entries as it has keys, each of which is the item of the projection in its place, apart from
the name that is given to what is no column, and the projection goes on with one item for each key
of a calculation.  Any other query does not group, and neither does a template unless the criteria
of its association do. -/
theorem grouping_find (required : schema.require name = .ok table) :
    (query.isAggregate →
      failure? (select schema dialect name query) = query.groupingFault? ∧
      ((∃ text, select schema dialect name query = .ok text) ↔
        query.groupBy.getD [] ≠ [] ∧ ∃ calculation, query.calculated calculation ≠ [])) ∧
    ∀ statement, find schema dialect name query = .ok statement →
      ∃ projection clauses written, ∃ grouping : String,
        select schema dialect name query = .ok projection ∧
        joins schema dialect query.instructions = .ok clauses ∧
        conditions schema dialect name query = .ok written ∧
        statement.text = projection ++ " " ++ String.join (clauses.map (· ++ " "))
          ++ (written.predicate?.map fun predicate => "WHERE " ++ predicate ++ " ").getD ""
          ++ grouping ++ table.ordering dialect query ∧
        (query.isAggregate → ∃ items groups,
          table.GroupsAlike dialect.quote (query.groupBy.getD []) items groups ∧
          projection = "SELECT " ++ String.intercalate ", "
              (items ++ query.requested.map fun (calculation, key) =>
                table.calculationItem dialect calculation key)
            ++ " FROM " ++ Table.sourceText dialect table.name ++ " " ∧
          grouping = " GROUP BY " ++ String.intercalate ", " groups) ∧
        (query.isAggregate = false → grouping = "") ∧
        ((∀ entry ∈ query.instructions, ∀ stage ∈ entry.2.childStage?,
            (stage.criteria.getD {}).isAggregate = false) →
          ∀ template ∈ statement.populations, ∃ population : Population,
            template = population.template dialect ∧ population.conditions.tail.groups = []) := by
  constructor
  · intro isAggregate
    have fault : failure? (select schema dialect name query) = query.groupingFault? := by
      rw [select_of_require required, failure?_map, Selection.failure?_of_isAggregate isAggregate]
    refine ⟨fault, ?_⟩
    rw [← failure?_eq_none_iff, fault, Query.groupingFault?_eq_none_iff]
  · intro statement found
    obtain ⟨plan, planned, rfl⟩ := exists_of_map_eq_ok found
    have compiled := FindPlan.compiled_of required planned
    have together := FindPlan.putTogether_write planned dialect
    refine ⟨Fragment.text dialect (plan.selection.fragments dialect), _, _,
      table.grouping dialect.quote (query.groupBy.getD []), ?_, together.joined,
      together.conditioned, ?_, ?_, ?_, ?_⟩
    · rw [select_of_require required, compiled.selection]
      rfl
    · rw [(@FindPlan.write_eq dialect plan).1, Conditions.tail_write compiled.conditions,
        List.map_map]
      simp only [String.append_assoc]
      rfl
    · intro isAggregate
      have noFault : query.groupingFault? = none := by
        rw [← Selection.failure?_of_isAggregate isAggregate, compiled.selection,
          failure?_ok]
      have grouped := (Query.groupingFault?_eq_none_iff.mp noFault).1
      refine ⟨_, _, table.groupsAlike dialect.quote _,
        Selection.text_of_isAggregate isAggregate compiled.selection, ?_⟩
      rw [Table.grouping, if_neg grouped]
    · intro plain
      rw [Query.groupBy_of_not_isAggregate plain]
      rfl
    · intro plain template member
      obtain ⟨population, isPopulation, rfl⟩ := List.mem_map.mp member
      obtain ⟨entry, isEntry, built⟩ :=
        Population.exists_of_mem_all compiled.populations isPopulation
      exact ⟨population, rfl, Population.groups_eq_nil built (plain entry isEntry)⟩

def salesSchema : Schema where
  tables := [
    ("sale", {
      name := "sale"
      attributes := [
        ("id", { type := some .integer, primaryKey := true }),
        ("region", { type := some .string, columnName := some "area" }),
        ("amount", .ofType .float)] })]

def salesQuery : Query where
  groupBy := some ["region", "date(day)"]
  sum := some ["amount"]
  average := some []
  max := some ["id", "amount"]
  sort := [("region", .ascending)]

theorem grouping_find_sales :
    ∃ table statement items groups, salesSchema.require "sale" = .ok table ∧
      find salesSchema {} "sale" salesQuery = .ok statement ∧
      table.GroupsAlike '"' ["region", "date(day)"] items groups ∧
      select salesSchema {} "sale" salesQuery =
        .ok ("SELECT " ++ String.intercalate ", " (items ++
          ["CAST(SUM(\"sale\".\"amount\") AS float) AS amount", "MAX(\"sale\".\"id\") AS id",
            "MAX(\"sale\".\"amount\") AS amount"])
          ++ " FROM " ++ "\"sale\" AS \"sale\"" ++ " ") ∧
      ∃ front, statement.text = front ++ (" GROUP BY " ++ String.intercalate ", " groups)
        ++ " ORDER BY \"sale\".\"area\" ASC" := by
  let sale := (salesSchema.table? "sale").getD { name := "" }
  have required : salesSchema.require "sale" = .ok sale := by decide
  have counted : (find salesSchema {} "sale" salesQuery).map (fun statement =>
      statement.populations.length) = .ok 0 := by
    decide
  obtain ⟨statement, found, _⟩ := exists_of_map_eq_ok counted
  have calculated : (salesQuery.requested.map fun (calculation, key) =>
      sale.calculationItem {} calculation key) =
        ["CAST(SUM(\"sale\".\"amount\") AS float) AS amount", "MAX(\"sale\".\"id\") AS id",
          "MAX(\"sale\".\"amount\") AS amount"] := by
    decide
  have source : Table.sourceText {} sale.name = "\"sale\" AS \"sale\"" := by decide
  have ordering : sale.ordering {} salesQuery = " ORDER BY \"sale\".\"area\" ASC" := by decide
  obtain ⟨_, assembled⟩ := @grouping_find {} salesSchema sale salesQuery "sale" required
  obtain ⟨projection, _, _, grouping, selected, _, _, text, grouped, _⟩ := assembled statement found
  obtain ⟨items, groups, alike, rfl, rfl⟩ := grouped rfl
  rw [calculated, source] at selected
  rw [ordering] at text
  exact ⟨sale, statement, items, groups, required, found, alike, selected, _, text⟩

end Statement

end QuerySql
