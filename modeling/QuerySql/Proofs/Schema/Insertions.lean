import Mathlib.Data.Finset.Card
import QuerySql.Proofs.Json.Merge
import QuerySql.Schema.Basic

namespace QuerySql

namespace Schema

def ofInsertions (insertions : List (String × Table)) : Schema :=
  insertions.foldl (fun schema entry => schema.insert entry.1 entry.2) {}

theorem tables_ofInsertions (insertions : List (String × Table)) :
    (ofInsertions insertions).tables =
      Fields.collect (insertions.map fun entry => (entry.1, named entry.1 entry.2)) := by
  have step : ∀ schema : Schema,
      (insertions.foldl (fun schema entry => schema.insert entry.1 entry.2) schema).tables =
        (insertions.map fun entry => (entry.1, named entry.1 entry.2)).foldl
          (fun map field => Fields.put map field.1 field.2) schema.tables := by
    induction insertions with
    | nil => exact fun _ => rfl
    | cons entry rest ih => exact fun schema => ih (schema.insert entry.1 entry.2)
  exact step {}

/-- The table that is inserted under an identity and not replaced by a later one. -/
def LastUnder (insertions : List (String × Table)) (identity : String) (table : Table) : Prop :=
  ∃ front back, insertions = front ++ (identity, table) :: back ∧ identity ∉ Fields.names back

theorem lastUnder_iff {insertions : List (String × Table)} {identity : String} {table : Table} :
    LastUnder insertions identity table ↔
      Fields.get? insertions.reverse identity = some table := by
  rw [Fields.get?, List.lookup_eq_some_iff]
  constructor
  · rintro ⟨front, back, rfl, unreplaced⟩
    refine ⟨back.reverse, front.reverse, by simp, fun entry member => bne_iff_ne.mpr ?_⟩
    rintro rfl
    exact unreplaced (List.mem_map_of_mem (List.mem_reverse.mp member))
  · rintro ⟨later, earlier, split, others⟩
    refine ⟨earlier.reverse, later.reverse, ?_, fun replaced => ?_⟩
    · rw [← List.reverse_reverse insertions, split]
      simp
    · obtain ⟨entry, member, isIdentity⟩ := List.mem_map.mp replaced
      exact bne_iff_ne.mp (others entry (List.mem_reverse.mp member)) isIdentity.symm

theorem get?_tables_ofInsertions (insertions : List (String × Table)) (identity : String) :
    Fields.get? (ofInsertions insertions).tables identity =
      (Fields.get? insertions.reverse identity).map (named identity) := by
  rw [tables_ofInsertions, Fields.get?_collect, ← List.map_reverse, Fields.get?_mapEntries]

theorem names_tables_ofInsertions (insertions : List (String × Table)) :
    Fields.names (ofInsertions insertions).tables = (Fields.names insertions).eraseDups := by
  rw [tables_ofInsertions, Fields.names_collect, Fields.names, List.map_map]
  rfl

theorem nodup_tables_ofInsertions (insertions : List (String × Table)) :
    (Fields.names (ofInsertions insertions).tables).Nodup := by
  rw [tables_ofInsertions]
  exact Fields.nodup_collect _

theorem name_named_ne_empty {identity : String} (nonempty : identity ≠ "") (table : Table) :
    (named identity table).name ≠ "" := by
  rw [named]
  split
  · exact nonempty
  · rename_i isNamed
    exact fun empty => isNamed (String.isEmpty_iff.mpr empty)

/-- A lookup prefers the table under an identity to those that are called so. -/
theorem table?_eq_or (schema : Schema) (name : String) :
    schema.table? name = (Fields.get? schema.tables name).or
      ((schema.tables.map Prod.snd).find? fun table => table.name == name) := by
  rw [table?, Option.map_or, ← Fields.get?_eq_map_find?, List.find?_map]
  rfl

/-- A schema in which each identity of a sequence of insertions stands in the place where it came
first, with the table that came last. -/
structure KeepsLatest (insertions : List (String × Table)) (schema : Schema) : Prop where
  distinct : (Fields.names schema.tables).Nodup
  order : Fields.names schema.tables = (Fields.names insertions).eraseDups
  latest : ∀ identity table, (identity, table) ∈ schema.tables ↔
    ∃ last, LastUnder insertions identity last ∧
      table = if last.name = "" then { last with name := identity } else last
  nameless : ∀ entry ∈ schema.tables, entry.1 ≠ "" → entry.2.name ≠ ""
  count : schema.tables.length = (Fields.names insertions).toFinset.card
  byIdentity : ∀ identity last, LastUnder insertions identity last →
    schema.table? identity =
      some (if last.name = "" then { last with name := identity } else last)
  byName : ∀ name ∉ Fields.names insertions,
    schema.table? name = (schema.tables.map Prod.snd).find? fun table => table.name == name

theorem named_eq (identity : String) (table : Table) :
    named identity table = if table.name = "" then { table with name := identity } else table := by
  simp only [named, String.isEmpty_iff]

/-- Insertions, in any number and order, leave the last table under each identity. -/
theorem keepsLatest_ofInsertions (insertions : List (String × Table)) :
    KeepsLatest insertions (ofInsertions insertions) where
  distinct := nodup_tables_ofInsertions insertions
  order := names_tables_ofInsertions insertions
  latest identity table := by
    rw [← Fields.get?_eq_some_iff (nodup_tables_ofInsertions insertions),
      get?_tables_ofInsertions, Option.map_eq_some_iff]
    simp only [lastUnder_iff, named_eq, eq_comm (a := table)]
  nameless := by
    rintro ⟨identity, table⟩ member nonempty
    rw [← Fields.get?_eq_some_iff (nodup_tables_ofInsertions insertions),
      get?_tables_ofInsertions] at member
    obtain ⟨last, -, rfl⟩ := Option.map_eq_some_iff.mp member
    exact name_named_ne_empty nonempty last
  count := by
    have same : (Fields.names (ofInsertions insertions).tables).toFinset =
        (Fields.names insertions).toFinset := by
      ext identity
      rw [List.mem_toFinset, List.mem_toFinset, names_tables_ofInsertions, List.mem_eraseDups]
    rw [← same, List.toFinset_card_of_nodup (nodup_tables_ofInsertions insertions), Fields.names,
      List.length_map]
  byIdentity identity last isLast := by
    rw [table?_eq_or, get?_tables_ofInsertions, lastUnder_iff.mp isLast, Option.map_some,
      Option.some_or, named_eq]
  byName name unknown := by
    have noIdentity : name ∉ Fields.names (ofInsertions insertions).tables := by
      rw [names_tables_ofInsertions, List.mem_eraseDups]
      exact unknown
    rw [table?_eq_or, Fields.get?_eq_none noIdentity, Option.none_or]

example : (ofInsertions [("cat", { name := "dog", attributes := [("id", {})] }),
    ("dog", { name := "" })]).table? "dog" = some { name := "dog" } := by
  decide

end Schema

end QuerySql
