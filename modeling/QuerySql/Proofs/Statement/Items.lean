import QuerySql.Proofs.Statement.Assembly

namespace QuerySql

open Sql Sql.Fragment

variable {dialect : Dialect}

def Projected.text (dialect : Dialect) (entry : Projected) : String :=
  Fragment.text dialect (entry.fragments dialect)

namespace Projected

theorem text_column (ref : ColumnRef) : (column ref).text dialect = ref.text dialect.quote :=
  ref.text_fragments

theorem text_renamed (ref : ColumnRef) (name : String) :
    (renamed ref name).text dialect =
      ref.text dialect.quote ++ " AS " ++ identifier dialect.quote name := by
  have bindsNothing : bound ref.fragments = [] := rfl
  rw [text, fragments, text_append bindsNothing, ref.text_fragments, text_fixed]
  simp [Fragment.text, emitAll_cons, emit, String.append_assoc]

end Projected

def Table.sourceText (dialect : Dialect) (name : String) : String :=
  Fragment.text dialect (aliasedTable dialect name name)

namespace Selection

theorem text_fragments (selection : Selection) :
    Fragment.text dialect (selection.fragments dialect) =
      "SELECT " ++ String.intercalate ", " (selection.entries.map (Projected.text dialect))
        ++ " FROM " ++ Table.sourceText dialect selection.table ++ " " := by
  have items : ∀ part ∈ selection.entries.map (·.fragments dialect), bound part = [] := by
    intro part member
    obtain ⟨entry, _, rfl⟩ := List.mem_map.mp member
    exact Population.bound_projected entry
  simp only [fragments, List.cons_append, List.append_assoc]
  rw [text_fixed, text_separated_append (by decide) items, List.map_map, text_fixed,
    text_append (Population.bound_aliasedTable _ _)]
  simp only [String.append_assoc]
  rfl

theorem of_plain {schema : Schema} {table : Table} {query : Query}
    (plain : query.isAggregate = false) :
    of schema table query =
      (allJoinedColumns schema query.instructions).map fun joined =>
        { table := table.name,
          entries := (ownColumns table query.select).map .column ++ joined } := by
  rw [of, plain, if_neg Bool.false_ne_true]
  cases allJoinedColumns schema query.instructions <;> rfl

end Selection

theorem Statement.select_of_require {schema : Schema} {table : Table} {name : String}
    {query : Query} (required : schema.require name = .ok table) :
    select schema dialect name query =
      (Selection.of schema table query).map fun selection =>
        Fragment.text dialect (selection.fragments dialect) := by
  rw [select, required]
  rfl

end QuerySql
