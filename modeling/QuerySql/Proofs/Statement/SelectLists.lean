import QuerySql.Proofs.Predicate.Marker
import QuerySql.Proofs.Statement.JoinedItems
import QuerySql.Proofs.Statement.Projection

namespace QuerySql

open Sql

namespace Table

variable {table : Table} {key : String}

theorem exists_collection_of_not_isColumn (notColumn : ¬ table.isColumn key) :
    ∃ entry ∈ table.attributes, entry.2.isCollection ∧
      table.column key = entry.2.column entry.1 := by
  rw [isColumn] at notColumn
  split at notColumn
  · rename_i name attr resolved
    refine ⟨(name, attr), mem_of_resolve? resolved, by simpa using notColumn, ?_⟩
    rw [column, resolved]
  · exact absurd rfl notColumn

/-- What the columns are that stand in a projection where a list of keys is asked for. -/
structure KeepsKey (table : Table) (keys columns : List String) : Prop where
  nonempty : columns ≠ []
  holdsKey : table.column table.primaryKey ∈ columns
  inOrder : (keys.filter table.isColumn).map table.column <:+ columns
  asked : ∀ column ∈ columns, column = table.column table.primaryKey ∨
    ∃ key ∈ keys, table.isColumn key ∧ table.column key = column
  /-- Only a primary key that no key of the list stands for comes before them. -/
  added : columns ≠ (keys.filter table.isColumn).map table.column →
    columns = table.column table.primaryKey :: (keys.filter table.isColumn).map table.column ∧
      ∀ key ∈ keys, table.column key ≠ table.column table.primaryKey

theorem mem_requested {column : String} {keys : List String}
    (member : column ∈ (keys.filter table.isColumn).map table.column) :
    ∃ key ∈ keys, table.isColumn key ∧ table.column key = column := by
  obtain ⟨key, isKept, isColumn⟩ := List.mem_map.mp member
  obtain ⟨isKey, kept⟩ := List.mem_filter.mp isKept
  exact ⟨key, isKey, kept, isColumn⟩

theorem keepsKey_requested {keys : List String}
    (apart : ∀ entry ∈ table.attributes, entry.2.isCollection →
      entry.2.column entry.1 ≠ table.column table.primaryKey)
    (isKey : key ∈ keys) (isPrimary : table.column key = table.column table.primaryKey) :
    table.KeepsKey keys ((keys.filter table.isColumn).map table.column) := by
  have kept : table.isColumn key := by
    by_contra notColumn
    obtain ⟨entry, member, isCollection, isColumn⟩ := exists_collection_of_not_isColumn notColumn
    exact apart entry member isCollection (isColumn.symm.trans isPrimary)
  have holds : table.column table.primaryKey ∈ (keys.filter table.isColumn).map table.column :=
    List.mem_map.mpr ⟨key, List.mem_filter.mpr ⟨isKey, kept⟩, isPrimary⟩
  exact {
    nonempty := List.ne_nil_of_mem holds
    holdsKey := holds
    inOrder := List.suffix_refl _
    asked := fun _ member => .inr (mem_requested member)
    added := fun differs => absurd rfl differs }

theorem keepsKey_cons {keys : List String}
    (missing : ∀ key ∈ keys, table.column key ≠ table.column table.primaryKey) :
    table.KeepsKey keys
      (table.column table.primaryKey :: (keys.filter table.isColumn).map table.column) where
  nonempty := List.cons_ne_nil _ _
  holdsKey := List.mem_cons_self
  inOrder := List.suffix_cons _ _
  asked := fun _ member => (List.mem_cons.mp member).imp_right mem_requested
  added := fun _ => ⟨rfl, missing⟩

end Table

namespace Selection

variable {table : Table}

theorem ownColumns_of_ne_nil {keys : List String} (nonempty : keys ≠ []) :
    ownColumns table (some keys) =
      if keys.any fun key => table.column key == table.column table.primaryKey then
        (keys.filter table.isColumn).map table.columnRef
      else
        table.columnRef table.primaryKey :: (keys.filter table.isColumn).map table.columnRef := by
  cases keys with
  | nil => exact absurd rfl nonempty
  | cons key rest => rfl

theorem exists_keepsKey {keys : List String}
    (apart : ∀ entry ∈ table.attributes, entry.2.isCollection →
      entry.2.column entry.1 ≠ table.column table.primaryKey)
    (nonempty : keys ≠ []) :
    ∃ columns, table.KeepsKey keys columns ∧
      ownColumns table (some keys) = columns.map fun column => ⟨table.name, column⟩ := by
  have asked : (keys.filter table.isColumn).map table.columnRef =
      ((keys.filter table.isColumn).map table.column).map fun column => ⟨table.name, column⟩ :=
    List.map_map.symm
  rw [ownColumns_of_ne_nil nonempty]
  split
  · rename_i isAsked
    obtain ⟨key, isKey, isPrimary⟩ := List.any_eq_true.mp isAsked
    exact ⟨_, Table.keepsKey_requested apart isKey (eq_of_beq isPrimary), asked⟩
  · rename_i notAsked
    refine ⟨_, Table.keepsKey_cons fun key isKey isPrimary => notAsked ?_, ?_⟩
    · exact List.any_eq_true.mpr ⟨key, isKey, beq_iff_eq.mpr isPrimary⟩
    · rw [List.map_cons, asked]
      rfl

end Selection

/-- The columns that are read of a child for each parent. -/
def Stage.populationNames (stage : Stage) (child : Table) : List String :=
  match stage.select with
  | none | some [] => child.columns
  | some keys => Selection.requestedColumns child keys

section Stage

variable {schema : Schema} {stage : Stage} {child : Table}

theorem Stage.joinedNames_eq_iff :
    stage.joinedNames child = stage.populationNames child ↔
      (stage.select = some [] → child.columns = []) := by
  rw [joinedNames, populationNames]
  cases stage.select with
  | none => simp
  | some keys =>
      cases keys with
      | nil => exact ⟨fun same _ => same.symm, fun isEmpty => (isEmpty rfl).symm⟩
      | cons key rest => simp

theorem Population.childColumns_eq :
    childColumns child stage.select =
      (stage.populationNames child).map fun column => ⟨child.name, column⟩ := by
  rw [Stage.populationNames]
  cases stage.select with
  | none => rfl
  | some keys => cases keys <;> rfl

theorem Population.Built.columns_eq {attr : String} {instruction : Instruction}
    {population : Population} (built : Built schema attr instruction population)
    (isStage : instruction.childStage? = some stage)
    (required : schema.require stage.child = .ok child) :
    population.columns =
      ((stage.populationNames child).map fun column => .column ⟨child.name, column⟩)
        ++ (population.link.map fun _ =>
          .renamed population.key ("___" ++ population.key.column)).toList := by
  cases built with
  | perParent isChild conditionsOf =>
      obtain rfl := Option.some.inj isStage
      obtain rfl := Except.ok.inj (isChild.symm.trans required)
      rw [childColumns_eq, List.map_map]
      exact (List.append_nil _).symm
  | throughJunction isJunction isChild conditionsOf =>
      obtain rfl := Option.some.inj isStage
      obtain rfl := Except.ok.inj (isChild.symm.trans required)
      rw [childColumns_eq, List.map_map]
      rfl

end Stage

namespace Statement

variable {schema : Schema} {table : Table} {name : String} {query : Query}

/-- A query that asks for columns is answered with them, in their order, and with the primary key,
which is added in front of them where none of them is it. -/
theorem keepsKey_select {keys : List String} (required : schema.require name = .ok table)
    (plain : query.isAggregate = false) (asked : query.select = some keys) (nonempty : keys ≠ [])
    (noJoin : ∀ entry ∈ query.instructions, entry.2.join ≠ .parentHoldsKey)
    (apart : ∀ entry ∈ table.attributes, entry.2.isCollection →
      entry.2.column entry.1 ≠ table.column table.primaryKey) :
    ∃ columns, table.KeepsKey keys columns ∧
      ∀ dialect, select schema dialect name query =
        .ok ("SELECT " ++ String.intercalate ", "
            (columns.map fun column => (ColumnRef.mk table.name column).text dialect.quote)
          ++ " FROM " ++ Table.sourceText dialect table.name ++ " ") := by
  obtain ⟨columns, keeps, own⟩ := Selection.exists_keepsKey apart nonempty
  refine ⟨columns, keeps, fun dialect => ?_⟩
  rw [select_of_require required, Selection.of_plain plain,
    Selection.allJoinedColumns_eq_nil noJoin, asked, own]
  simp only [Except.map, Selection.text_fragments, List.append_nil, List.map_map,
    Function.comp_def, Projected.text_column]

def crewSchema : Schema where
  tables := [
    ("user", {
      name := "user"
      attributes := [
        ("id", { type := some .integer, primaryKey := true }),
        ("team", Attribute.withForeignKey {} "team" "id")] }),
    ("team", {
      name := "team"
      attributes := [
        ("label", { type := some .string, columnName := some "label_text" }),
        ("id", { type := some .integer, primaryKey := true }),
        ("members", .toMany "user" "team")] })]

def crewQuery : Query where
  select := some ["ghost", "members", "label_text", "label"]

theorem keepsKey_select_crew :
    ∃ table columns, crewSchema.require "team" = .ok table ∧
      (∀ entry ∈ table.attributes, entry.2.isCollection →
        entry.2.column entry.1 ≠ table.column table.primaryKey) ∧
      table.KeepsKey ["ghost", "members", "label_text", "label"] columns ∧
      columns = ["id", "ghost", "label_text", "label_text"] ∧
      select crewSchema {} "team" crewQuery =
        .ok ("SELECT " ++ String.intercalate ", "
            (columns.map fun column => (ColumnRef.mk "team" column).text '"')
          ++ " FROM " ++ Table.sourceText {} "team" ++ " ") := by
  let team := (crewSchema.table? "team").getD { name := "" }
  have required : crewSchema.require "team" = .ok team := by decide
  have noJoin : ∀ entry ∈ crewQuery.instructions, entry.2.join ≠ .parentHoldsKey := by decide
  have apart : ∀ entry ∈ team.attributes, entry.2.isCollection →
      entry.2.column entry.1 ≠ team.column team.primaryKey := by
    decide
  have missing : team.column team.primaryKey ∉ (["ghost", "members", "label_text",
      "label"].filter team.isColumn).map team.column := by
    decide
  obtain ⟨columns, keeps, selected⟩ :=
    keepsKey_select required rfl rfl (List.cons_ne_nil _ _) noJoin apart
  have added := (keeps.added fun same => missing (same ▸ keeps.holdsKey)).1
  exact ⟨team, columns, required, apart, keeps, added, selected {}⟩

/-- The same stage asks for the same columns of its child whether the child is joined or read for
each parent, unless it has an empty list.  A child that is joined is then read without a column. -/
theorem columns_stage {attr : String} {instruction : Instruction} {stage : Stage} {child : Table}
    (isFirst : instruction.firstStage attr = .ok stage)
    (required : schema.require stage.child = .ok child) :
    Selection.joinedColumns schema attr instruction =
        .ok ((stage.joinedNames child).map fun column =>
          JoinedItem.entry ⟨stage.associationName attr, column⟩) ∧
      (∀ other populated population, populated.childStage? = some stage →
        Population.of? schema other populated = .ok (some population) →
        population.columns =
          ((stage.populationNames child).map fun column => .column ⟨child.name, column⟩)
            ++ (population.link.map fun _ =>
              .renamed population.key ("___" ++ population.key.column)).toList) ∧
      (stage.joinedNames child = stage.populationNames child ↔
        (stage.select = some [] → child.columns = [])) ∧
      (stage.select = some [] →
        stage.joinedNames child = [] ∧ stage.populationNames child = child.columns) := by
  refine ⟨Selection.joinedColumns_of_firstStage isFirst required, ?_, Stage.joinedNames_eq_iff, ?_⟩
  · intro other populated population isStage compiled
    exact (Population.built_of_of? compiled).columns_eq isStage required
  · intro isEmpty
    rw [Stage.joinedNames, Stage.populationNames, isEmpty]
    exact ⟨rfl, rfl⟩

def teamStage (select : Option (List String)) : Stage where
  parent := "user"
  parentKey := "team"
  child := "team"
  childKey := "id"
  select

theorem columns_stage_crew :
    ∃ child population entries, crewSchema.require "team" = .ok child ∧
      Selection.joinedColumns crewSchema "team"
        (.of .parentHoldsKey [teamStage (some ["members", "label"])]) = .ok entries ∧
      Population.of? crewSchema "team"
        (.of .childHoldsKey [teamStage (some ["members", "label"])]) = .ok (some population) ∧
      entries = [JoinedItem.entry ⟨"team", "label_text"⟩] ∧
      population.columns = [.column ⟨"team", "label_text"⟩] := by
  let stage := teamStage (some ["members", "label"])
  let team := (crewSchema.table? "team").getD { name := "" }
  have required : crewSchema.require stage.child = .ok team := by decide
  have isFirst : (Instruction.of .parentHoldsKey [stage]).firstStage "team" = .ok stage := rfl
  have compiled : (Population.of? crewSchema "team" (.of .childHoldsKey [stage])).map
      (fun population => population.map fun population => population.link.isSome) =
        .ok (some false) := by
    decide
  obtain ⟨built?, built, isShape⟩ := exists_of_map_eq_ok compiled
  obtain ⟨population, rfl, linked⟩ := Option.map_eq_some_iff.mp isShape
  have noLink : population.link = none :=
    Option.isNone_iff_eq_none.mp (Option.isSome_eq_false_iff.mp linked)
  obtain ⟨joined, populated, _, _⟩ := columns_stage isFirst required
  have columns := populated "team" (.of .childHoldsKey [stage]) population rfl built
  rw [noLink] at columns
  exact ⟨team, population, _, required, joined, built, rfl, columns⟩

/-- A team that is joined is read without a column, and one that is read for each user with all. -/
theorem columns_stage_empty :
    select crewSchema {} "user" {
        instructions := [("team", .of .parentHoldsKey [teamStage (some [])])] } =
      .ok "SELECT \"user\".\"id\", \"user\".\"team\" FROM \"user\" AS \"user\" " ∧
    (population crewSchema {} "team" (.of .childHoldsKey [teamStage (some [])])).map
        (fun template => template.map PopulationTemplate.text) =
      .ok (some ("(SELECT \"team\".\"label_text\", \"team\".\"id\" FROM \"team\" AS \"team\" "
        ++ "WHERE \"team\".\"id\" = ^?^ ORDER BY \"team\".\"id\" ASC)")) := by
  decide +kernel

end Statement

end QuerySql
