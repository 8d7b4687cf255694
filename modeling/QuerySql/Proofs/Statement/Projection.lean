import QuerySql.Proofs.Json.Distinct
import QuerySql.Proofs.Sql.Unquoted
import QuerySql.Proofs.Statement.Items

namespace QuerySql

open Sql

namespace Table

/-- No column is called like an attribute that is stored in another column. -/
def Unshadowed (table : Table) : Prop :=
  ∀ column ∈ table.columns, ∀ attr ∈ table.attribute? column, attr.column column = column

instance (table : Table) : Decidable table.Unshadowed :=
  inferInstanceAs (Decidable (∀ column ∈ table.columns, ∀ attr ∈ table.attribute? column,
    attr.column column = column))

theorem attribute?_eq_map_find? (table : Table) (name : String) :
    table.attribute? name =
      (table.attributes.find? fun entry => entry.1 == name).map Prod.snd :=
  Fields.get?_eq_map_find? table.attributes name

theorem column_of_attribute? {table : Table} {key : String} {attr : Attribute}
    (isAttribute : table.attribute? key = some attr) : table.column key = attr.column key := by
  rw [attribute?_eq_map_find?] at isAttribute
  obtain ⟨⟨name, _⟩, found, rfl⟩ := Option.map_eq_some_iff.mp isAttribute
  have isName : name = key := by simpa using List.find?_some found
  rw [column, resolve?, found, Option.some_or, isName]

theorem column_of_attribute?_eq_none {table : Table} {key : String}
    (noAttribute : table.attribute? key = none) : table.column key = key := by
  rw [attribute?_eq_map_find?, Option.map_eq_none_iff] at noAttribute
  rw [column, resolve?, noAttribute, Option.none_or]
  split
  · rename_i name attr found
    have isColumn : attr.columnName = some key := by simpa using List.find?_some found
    rw [Attribute.column, isColumn, Option.getD_some]
  · rfl

theorem column_eq_self_iff {table : Table} {key : String} :
    table.column key = key ↔ ∀ attr ∈ table.attribute? key, attr.column key = key := by
  cases isAttribute : table.attribute? key with
  | none => simp [column_of_attribute?_eq_none isAttribute]
  | some attr => simp [column_of_attribute? isAttribute]

theorem map_column_columns_iff {table : Table} :
    table.columns.map table.column = table.columns ↔ table.Unshadowed := by
  have pointwise : table.columns.map table.column = table.columns.map id ↔ _ := List.map_inj_left
  rw [List.map_id] at pointwise
  exact pointwise.trans (forall₂_congr fun column _ => column_eq_self_iff)

theorem map_columnRef_columns_iff {β : Type} {table : Table} {item : ColumnRef → β}
    (apart : Function.Injective fun column => item ⟨table.name, column⟩) :
    (table.columns.map table.columnRef).map item =
        (table.columns.map fun column => ⟨table.name, column⟩).map item ↔
      table.Unshadowed := by
  have resolved : (table.columns.map table.columnRef).map item =
      (table.columns.map table.column).map fun column => item ⟨table.name, column⟩ := by
    rw [List.map_map, List.map_map]
    rfl
  have own : (table.columns.map fun column => ⟨table.name, column⟩).map item =
      table.columns.map fun column => item ⟨table.name, column⟩ := List.map_map
  rw [resolved, own]
  exact (List.map_inj_right apart).trans map_column_columns_iff

end Table

namespace Selection

variable {table : Table} {query : Query}

theorem allJoinedColumns_eq_nil {schema : Schema} {instructions : List (String × Instruction)}
    (noJoin : ∀ entry ∈ instructions, entry.2.join ≠ .parentHoldsKey) :
    allJoinedColumns schema instructions = .ok [] := by
  induction instructions with
  | nil => rfl
  | cons entry rest ih =>
      obtain ⟨first, others⟩ := List.forall_mem_cons.mp noJoin
      rw [allJoinedColumns, if_neg first]
      exact ih others

theorem ownColumns_of_noSelect {select : Option (List String)}
    (noSelect : select = none ∨ select = some []) :
    ownColumns table select = table.columns.map table.columnRef := by
  rcases noSelect with rfl | rfl <;> rfl

end Selection

theorem Population.childColumns_of_noSelect {table : Table} {select : Option (List String)}
    (noSelect : select = none ∨ select = some []) :
    childColumns table select = table.columns.map fun column => ⟨table.name, column⟩ := by
  rcases noSelect with rfl | rfl <;> rfl

namespace Statement

variable {schema : Schema} {table : Table} {name : String} {query : Query}

/-- A query that asks for no columns and joins none is answered with those that the columns of the
table stand for when they are taken for keys.  They are the columns themselves, which a population
reads, unless one is called like an attribute that is stored in another. -/
theorem projection_select (required : schema.require name = .ok table)
    (plain : query.isAggregate = false) (noSelect : query.select = none ∨ query.select = some [])
    (noJoin : ∀ entry ∈ query.instructions, entry.2.join ≠ .parentHoldsKey) :
    ∃ selection : Selection,
      (∀ dialect, select schema dialect name query =
        .ok (Fragment.text dialect (selection.fragments dialect))) ∧
      selection.table = table.name ∧
      selection.entries = (table.columns.map table.columnRef).map .column ∧
      Population.childColumns table query.select =
        table.columns.map (fun column => ⟨table.name, column⟩) ∧
      (selection.entries = (Population.childColumns table query.select).map .column ↔
        table.Unshadowed) ∧
      ∀ dialect,
        select schema dialect name query =
          .ok ("SELECT " ++ String.intercalate ", "
              ((table.columns.map table.columnRef).map (ColumnRef.text dialect.quote))
            ++ " FROM " ++ Table.sourceText dialect table.name ++ " ") ∧
        ((table.columns.map table.columnRef).map (ColumnRef.text dialect.quote) =
            (Population.childColumns table query.select).map (ColumnRef.text dialect.quote) ↔
          table.Unshadowed) := by
  let selection : Selection :=
    { table := table.name, entries := (table.columns.map table.columnRef).map .column }
  have selected : Selection.of schema table query = .ok selection := by
    rw [Selection.of_plain plain, Selection.allJoinedColumns_eq_nil noJoin,
      Selection.ownColumns_of_noSelect noSelect, Except.map, List.append_nil]
  have written (dialect : Dialect) : select schema dialect name query =
      .ok (Fragment.text dialect (selection.fragments dialect)) := by
    rw [select_of_require required, selected, Except.map]
  rw [Population.childColumns_of_noSelect noSelect]
  refine ⟨selection, written, rfl, rfl, rfl, Table.map_columnRef_columns_iff ?_,
    fun dialect => ⟨?_, Table.map_columnRef_columns_iff ?_⟩⟩
  · intro column column' same
    exact (ColumnRef.mk.inj (Projected.column.inj same)).2
  · rw [written, Selection.text_fragments, List.map_map]
    simp only [Function.comp_def, Projected.text_column]
    rfl
  · intro column column' same
    exact identifier_injective dialect.quote (String.append_right_inj _ |>.mp same)

def librarySchema : Schema where
  tables := [
    ("book", {
      name := "book"
      attributes := [
        ("id", { type := some .integer, primaryKey := true }),
        ("title", { type := some .string, columnName := some "name" }),
        ("name", .ofType .string),
        ("reviews", .toMany "review" "book")] })]

def reviewedQuery : Query where
  select := some []
  instructions := [("reviews", .of .childHoldsKey [])]

theorem projection_select_library :
    ∃ table, ∃ selection : Selection, librarySchema.require "book" = .ok table ∧
      (∀ dialect, select librarySchema dialect "book" reviewedQuery =
        .ok (Fragment.text dialect (selection.fragments dialect))) ∧
      selection.entries = (Population.childColumns table reviewedQuery.select).map .column ∧
      Population.childColumns table reviewedQuery.select =
        [⟨"book", "id"⟩, ⟨"book", "name"⟩, ⟨"book", "name"⟩] ∧
      select librarySchema {} "book" reviewedQuery =
        .ok ("SELECT \"book\".\"id\", \"book\".\"name\", \"book\".\"name\" "
          ++ "FROM \"book\" AS \"book\" ") ∧
      (table.columns.map table.columnRef).map (ColumnRef.text '"') =
        (Population.childColumns table reviewedQuery.select).map (ColumnRef.text '"') := by
  let book := (librarySchema.table? "book").getD { name := "book" }
  have required : librarySchema.require "book" = .ok book := by decide
  have noJoin : ∀ entry ∈ reviewedQuery.instructions, entry.2.join ≠ .parentHoldsKey := by decide
  have unshadowed : book.Unshadowed := by decide
  obtain ⟨selection, selected, _, _, columns, same, written⟩ :=
    projection_select required rfl (.inr rfl) noJoin
  obtain ⟨text, sameText⟩ := written {}
  have isText : "SELECT " ++ String.intercalate ", "
        ((book.columns.map book.columnRef).map (ColumnRef.text '"'))
      ++ " FROM " ++ Table.sourceText {} book.name ++ " " =
        "SELECT \"book\".\"id\", \"book\".\"name\", \"book\".\"name\" "
          ++ "FROM \"book\" AS \"book\" " := by
    decide +kernel
  exact ⟨book, selection, required, selected, same.mpr unshadowed, columns,
    text.trans (congrArg Except.ok isText), sameText.mpr unshadowed⟩

def crossedSchema : Schema where
  tables := [
    ("t", {
      name := "t"
      attributes := [
        ("a", { type := some .string, columnName := some "b" }),
        ("b", { type := some .string, columnName := some "c" })] })]

/-- The column of `a` is not read, and that of `b` is read twice. -/
theorem projection_select_crossed :
    select crossedSchema {} "t" {} =
        .ok "SELECT \"t\".\"c\", \"t\".\"c\" FROM \"t\" AS \"t\" " ∧
      (crossedSchema.require "t").map Table.columns = .ok ["b", "c"] ∧
      (crossedSchema.require "t").map (fun table => Population.childColumns table none) =
        .ok [⟨"t", "b"⟩, ⟨"t", "c"⟩] := by
  decide +kernel

end Statement

end QuerySql
