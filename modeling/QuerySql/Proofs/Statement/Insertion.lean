import QuerySql.Proofs.Statement.Items
import QuerySql.Proofs.Statement.Respelled
import QuerySql.Statement.Insert

namespace QuerySql

open Sql Sql.Fragment

variable {dialect : Dialect}

namespace Sql.Fragment

def operands (values : List Value) : List Fragment :=
  separated ", " (values.map fun value => [.operand value])

theorem emitParts_operands_bound (parameterized : dialect.parameterized) (bindings : Bindings)
    (values : List Value) :
    (emitParts dialect bindings (values.map fun value => [.operand value])).1 =
      (List.range' bindings.next values.length).map Bindings.placeholder := by
  induction values generalizing bindings with
  | nil => rfl
  | cons value rest ih =>
      have placed : emit dialect bindings (.operand value) = bindings.bind value :=
        if_pos parameterized
      rw [List.map_cons, emitParts_cons, emitAll_singleton, placed, ih, List.length_cons,
        List.range'_succ, List.map_cons]
      rfl

theorem emitParts_operands_inline (inline : dialect.parameterized = false) (bindings : Bindings)
    (values : List Value) :
    (emitParts dialect bindings (values.map fun value => [.operand value])).1 =
      values.map literal := by
  induction values with
  | nil => rfl
  | cons value rest ih =>
      have written : emit dialect bindings (.operand value) = (literal value, bindings) :=
        if_neg (Bool.eq_false_iff.mp inline)
      rw [List.map_cons, emitParts_cons, emitAll_singleton, written, ih, List.map_cons]

theorem emitAll_operands_bound (parameterized : dialect.parameterized) (bindings : Bindings)
    (values : List Value) :
    (emitAll dialect bindings (operands values)).1 =
      String.intercalate ", "
        ((List.range' bindings.next values.length).map Bindings.placeholder) := by
  rw [operands, emitAll_separated, emitParts_operands_bound parameterized]

theorem emitAll_operands_inline (inline : dialect.parameterized = false) (bindings : Bindings)
    (values : List Value) :
    (emitAll dialect bindings (operands values)).1 =
      String.intercalate ", " (values.map literal) := by
  rw [operands, emitAll_separated, emitParts_operands_inline inline]

theorem bound_operands (values : List Value) :
    bound (operands values) = values.map Value.normalized := by
  rw [operands, sees_bound.separated (by decide), List.flatMap_map, List.map_eq_flatMap]
  rfl

end Sql.Fragment

namespace Statement

variable {schema : Schema} {table : Table} {name : String} {record : List (String × Value)}

def insertColumnText (dialect : Dialect) (column : String) : String :=
  if dialect.quotesInsertColumns then identifier dialect.quote column else column

def insertTableText (dialect : Dialect) (table : String) : String :=
  match dialect.qualifiers.lookup table with
  | some schema => identifier dialect.quote schema ++ "." ++ identifier dialect.quote table
  | none => identifier dialect.quote table

def insertEnd (dialect : Dialect) : String :=
  if dialect.returnsRows then ") RETURNING *" else ")"

/-- The text of an insertion with these columns and operands. -/
def insertText (dialect : Dialect) (table : String) (columns operands : List String) : String :=
  "INSERT INTO " ++ insertTableText dialect table ++ " ("
    ++ String.intercalate ", " columns ++ ") VALUES (" ++ String.intercalate ", " operands
    ++ insertEnd dialect

def insertHead (dialect : Dialect) (table : Table) (record : List (String × Value)) :
    List Fragment :=
  .fixed "INSERT INTO " :: tableFragments dialect table.name ++ .fixed " ("
    :: separated ", " (record.map fun entry => insertColumn dialect (table.column entry.1))
    ++ [.fixed ") VALUES ("]

theorem insertFragments_eq (dialect : Dialect) (table : Table) (record : List (String × Value)) :
    insertFragments dialect table record =
      insertHead dialect table record
        ++ (operands (record.map Prod.snd) ++ [.fixed (insertEnd dialect)]) := by
  rw [insertFragments, insertHead, operands, insertEnd, List.map_map]
  simp only [List.append_assoc, List.cons_append, List.nil_append, Function.comp_def]

theorem bound_insertColumn (dialect : Dialect) (column : String) :
    bound (insertColumn dialect column) = [] := by
  rw [insertColumn]
  split <;> rfl

theorem text_insertColumn (dialect : Dialect) (column : String) :
    Fragment.text dialect (insertColumn dialect column) = insertColumnText dialect column := by
  rw [insertColumn, insertColumnText]
  split <;> simp [Fragment.text, emitAll_cons, emit]

theorem bound_tableFragments (dialect : Dialect) (table : String) :
    bound (tableFragments dialect table) = [] := by
  rw [tableFragments]
  split <;> rfl

theorem text_tableFragments (dialect : Dialect) (table : String) :
    Fragment.text dialect (tableFragments dialect table) = insertTableText dialect table := by
  rw [tableFragments, insertTableText]
  cases dialect.qualifiers.lookup table <;>
    simp [Fragment.text, emitAll_cons, emit, String.append_assoc]

theorem bound_insertHead (dialect : Dialect) (table : Table) (record : List (String × Value)) :
    bound (insertHead dialect table record) = [] := by
  have columns : bound (separated ", " (record.map fun entry =>
      insertColumn dialect (table.column entry.1))) = [] := by
    rw [sees_bound.separated (by decide), List.flatMap_map]
    exact List.flatMap_eq_nil_iff.mpr fun entry _ => bound_insertColumn dialect _
  rw [insertHead, sees_bound.trailing (by decide), sees_bound.link _ _ _ (by decide),
    sees_bound.fixed (by decide), bound_tableFragments, columns]
  rfl

theorem bound_insertFragments (dialect : Dialect) (table : Table)
    (record : List (String × Value)) :
    bound (insertFragments dialect table record) = record.map fun entry => entry.2.normalized := by
  rw [insertFragments_eq, bound_append, bound_insertHead, List.nil_append,
    sees_bound.trailing (by rw [insertEnd]; split <;> decide), bound_operands, List.map_map]
  rfl

theorem text_insertHead (dialect : Dialect) (table : Table) (record : List (String × Value)) :
    Fragment.text dialect (insertHead dialect table record) =
      "INSERT INTO " ++ insertTableText dialect table.name ++ " ("
        ++ String.intercalate ", "
          (record.map fun entry => insertColumnText dialect (table.column entry.1))
        ++ ") VALUES (" := by
  have columns : ∀ part ∈ record.map fun entry => insertColumn dialect (table.column entry.1),
      bound part = [] := by
    intro part member
    obtain ⟨entry, _, rfl⟩ := List.mem_map.mp member
    exact bound_insertColumn dialect _
  have texts : (record.map fun entry => insertColumn dialect (table.column entry.1)).map
      (Fragment.text dialect) =
        record.map fun entry => insertColumnText dialect (table.column entry.1) := by
    simp only [List.map_map, Function.comp_def, text_insertColumn]
  simp only [insertHead, List.cons_append, List.append_assoc]
  rw [text_fixed, text_append (bound_tableFragments dialect _), text_tableFragments, text_fixed,
    text_separated_append (by decide) columns, texts]
  simp [Fragment.text, emitAll_cons, emit, String.append_assoc]

theorem text_insertFragments {texts : List String}
    (written : (emitAll dialect {} (operands (record.map Prod.snd))).1 =
      String.intercalate ", " texts) :
    (emitAll dialect {} (insertFragments dialect table record)).1 =
      insertText dialect table.name
        (record.map fun entry => insertColumnText dialect (table.column entry.1)) texts := by
  rw [insertFragments_eq, emitAll_append,
    emitAll_of_bound_eq_nil rfl (bound_insertHead dialect table record), emitAll_append, written,
    text_insertHead]
  delta insertText
  simp [emitAll_cons, emit, String.append_assoc]

theorem insert_of_require (required : schema.require name = .ok table) (present : record ≠ []) :
    insert schema dialect name record =
      .ok {
        text := (emitAll dialect {} (insertFragments dialect table record)).1
        values := (emitAll dialect {} (insertFragments dialect table record)).2.values } := by
  rw [insert, required]
  exact if_neg (mt List.isEmpty_iff.mp present)

theorem failure?_insert (schema : Schema) (dialect : Dialect) (name : String)
    (record : List (String × Value)) :
    failure? (insert schema dialect name record) =
      if (schema.table? name).isNone then some (.unknownTable name)
      else if record.isEmpty then some (.malformed (.emptyRecord name))
      else none := by
  rw [insert, Schema.require]
  cases schema.table? name with
  | none => rfl
  | some table =>
      cases record with
      | nil => rfl
      | cons entry rest => rfl

/-- An insertion has a column and an operand for each entry of the record: the column that the key
of the entry stands for, and a placeholder for its value or the value's literal. -/
theorem aligned_insert (schema : Schema) (dialect : Dialect) (name : String)
    (record : List (String × Value)) :
    failure? (insert schema dialect name record) =
        (if (schema.table? name).isNone then some (.unknownTable name)
        else if record.isEmpty then some (.malformed (.emptyRecord name))
        else none) ∧
      ∀ table, schema.require name = .ok table → record ≠ [] →
        ∃ columns values, columns.length = record.length ∧ values.length = record.length ∧
          (∀ (index : Nat) (key : String) (value : Value), record[index]? = some (key, value) →
            columns[index]? = some (insertColumnText dialect (table.column key)) ∧
              values[index]? = some value.normalized) ∧
          insert schema { dialect with parameterized := true } name record =
            .ok ⟨insertText dialect table.name columns (numbered record.length), values⟩ ∧
          insert schema { dialect with parameterized := false } name record =
            .ok ⟨insertText dialect table.name columns (values.map literal), []⟩ := by
  refine ⟨failure?_insert schema dialect name record, fun table required present => ?_⟩
  let columns := record.map fun entry => insertColumnText dialect (table.column entry.1)
  let values := record.map fun entry => entry.2.normalized
  refine ⟨columns, values, List.length_map _, List.length_map _,
    fun index key value isEntry => ⟨?_, ?_⟩, ?_, ?_⟩
  · rw [List.getElem?_map, isEntry, Option.map_some]
  · rw [List.getElem?_map, isEntry, Option.map_some]
  · have placeholders : (List.range' 1 (record.map Prod.snd).length).map Bindings.placeholder =
        numbered record.length := by
      rw [List.length_map, List.range'_eq_map_range, List.map_map, numbered]
      exact List.map_congr_left fun index _ => congrArg Bindings.placeholder (Nat.add_comm 1 index)
    rw [insert_of_require required present,
      text_insertFragments (emitAll_operands_bound rfl {} _), placeholders, emitAll_values,
      bound_insertFragments, if_pos rfl]
    rfl
  · rw [insert_of_require required present,
      text_insertFragments (emitAll_operands_inline rfl {} _), emitAll_values,
      if_neg Bool.false_ne_true, List.map_map, List.map_map]
    simp only [Function.comp_def, literal_normalized]
    rfl

def sampleRecord : List (String × Value) :=
  [("name", .list [.int 1, .null]), ("na\"$1", .bytes [0xAB]), ("other", .string "it's"),
    ("id", .null)]

theorem aligned_insert_sample :
    ∃ table columns values, sampleSchema.require "user" = .ok table ∧ sampleRecord ≠ [] ∧
      columns.length = 4 ∧ columns[1]? = some "\"na\"\"$1\"" ∧ columns[2]? = some "\"other\"" ∧
      values[1]? = some (Value.string "\\xab") ∧
      insert sampleSchema { ({} : Dialect) with parameterized := true } "user" sampleRecord =
        .ok ⟨insertText {} table.name columns ["$1", "$2", "$3", "$4"], values⟩ ∧
      insert sampleSchema { ({} : Dialect) with parameterized := false } "user" sampleRecord =
        .ok ⟨insertText {} table.name columns (values.map literal), []⟩ := by
  obtain ⟨table, required⟩ : ∃ table, sampleSchema.require "user" = .ok table := ⟨_, rfl⟩
  have present : sampleRecord ≠ [] := by decide
  have resolved : (sampleSchema.require "user").map
      (fun table => (table.column "na\"$1", table.column "other")) = .ok ("na\"$1", "other") := by
    decide
  rw [required] at resolved
  obtain ⟨sameColumn, unknown⟩ := Prod.mk.inj (Except.ok.inj resolved)
  obtain ⟨_, succeeds⟩ := aligned_insert sampleSchema {} "user" sampleRecord
  obtain ⟨columns, values, count, _, aligned, bound, inline⟩ := succeeds table required present
  obtain ⟨second, bytes⟩ := aligned 1 "na\"$1" (.bytes [0xAB]) rfl
  obtain ⟨third, _⟩ := aligned 2 "other" (.string "it's") rfl
  rw [sameColumn] at second
  rw [unknown] at third
  exact ⟨table, columns, values, required, present, count, second, third, bytes, bound, inline⟩

end Statement

end QuerySql
