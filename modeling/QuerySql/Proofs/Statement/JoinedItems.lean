import QuerySql.Proofs.Sql.Unquoted
import QuerySql.Proofs.Statement.Items

namespace QuerySql

open Sql

variable {dialect : Dialect} {schema : Schema} {instructions : List (String × Instruction)}

/-- What an item of a joined association reads. -/
structure JoinedItem where
  association : String
  column : String
  deriving DecidableEq

namespace JoinedItem

def sign : String := "___"

/-- The name of the item in the result. -/
def output (quote : Char) (item : JoinedItem) : String :=
  identifier quote (item.association ++ sign ++ item.column)

def text (quote : Char) (item : JoinedItem) : String :=
  (ColumnRef.mk ("__" ++ item.association) item.column).text quote ++ " AS " ++ item.output quote

/-- The item that a name in the result belongs to. -/
def ofOutput? (quote : Char) (output : String) : Option JoinedItem :=
  (unquoted? quote output).bind fun name =>
    (splitFirst? sign.toList name.toList).map fun (association, column) =>
      { association := String.ofList association, column := String.ofList column }

def entry (item : JoinedItem) : Projected :=
  .renamed ⟨joinQualifier item.association, item.column⟩ (item.association ++ sign ++ item.column)

theorem text_entry (item : JoinedItem) : item.entry.text dialect = item.text dialect.quote :=
  Projected.text_renamed _ _

end JoinedItem

/-- Whether an association can be told apart from the columns behind it. -/
def IsSeparable (association : String) : Prop :=
  ¬ JoinedItem.sign.toList <:+: association.toList ∧ association.toList.getLast? ≠ some '_'

instance (association : String) : Decidable (IsSeparable association) :=
  inferInstanceAs (Decidable (_ ∧ _))

namespace JoinedItem

theorem ofOutput?_output {item : JoinedItem} (separable : IsSeparable item.association)
    (quote : Char) : ofOutput? quote (item.output quote) = some item := by
  have uniform : ∀ char ∈ sign.toList, char = '_' := by simp [sign]
  have split := splitFirst?_append uniform separable.1 separable.2 item.column.toList
  rw [← List.append_assoc, ← String.toList_append, ← String.toList_append] at split
  rw [ofOutput?, output, unquoted?_identifier, Option.bind_some, split, Option.map_some]
  simp only [String.ofList_toList]

example : ofOutput? '"' "\"team____id\"" = some { association := "team", column := "_id" } := by
  decide

theorem eq_of_output_eq {quote : Char} {item other : JoinedItem}
    (separable : IsSeparable item.association) (separableOther : IsSeparable other.association)
    (sameOutput : item.output quote = other.output quote) : item = other := by
  have read := ofOutput?_output separable quote
  rw [sameOutput, ofOutput?_output separableOther] at read
  exact (Option.some.inj read).symm

end JoinedItem

/-- The columns that are read of a child that is joined. -/
def Stage.joinedNames (stage : Stage) (child : Table) : List String :=
  (stage.select.map (Selection.requestedColumns child)).getD child.columns

/-- Whether an item reads a column of an association that is to be joined. -/
def JoinedItem.IsAsked (schema : Schema) (instructions : List (String × Instruction))
    (item : JoinedItem) : Prop :=
  ∃ entry ∈ instructions, entry.2.join = .parentHoldsKey ∧
    ∃ stage child, entry.2.firstStage entry.1 = .ok stage ∧
      schema.require stage.child = .ok child ∧
      item.association = stage.associationName entry.1 ∧ item.column ∈ stage.joinedNames child

namespace Selection

theorem joinedColumns_of_firstStage {attr : String} {instruction : Instruction} {stage : Stage}
    {child : Table} (isFirst : instruction.firstStage attr = .ok stage)
    (required : schema.require stage.child = .ok child) :
    joinedColumns schema attr instruction =
      .ok ((stage.joinedNames child).map fun column =>
        JoinedItem.entry ⟨stage.associationName attr, column⟩) := by
  rw [joinedColumns, isFirst, Stage.joinedNames]
  show (schema.require stage.child).map _ = _
  rw [required]
  cases stage.select <;> rfl

/-- Every joined column is an item, and each item is asked for by an instruction. -/
theorem exists_items {entries : List Projected}
    (compiled : allJoinedColumns schema instructions = .ok entries) :
    ∃ items : List JoinedItem, entries = items.map JoinedItem.entry ∧
      ∀ item ∈ items, item.IsAsked schema instructions := by
  induction instructions generalizing entries with
  | nil =>
      cases compiled
      exact ⟨[], rfl, nofun⟩
  | cons entry rest ih =>
      obtain ⟨attr, instruction⟩ := entry
      have later {item : JoinedItem} (isAsked : item.IsAsked schema rest) :
          item.IsAsked schema ((attr, instruction) :: rest) := by
        obtain ⟨entry, member, asked⟩ := isAsked
        exact ⟨entry, List.mem_cons_of_mem _ member, asked⟩
      rw [allJoinedColumns] at compiled
      split at compiled
      · rename_i isJoined
        obtain ⟨columns, joining, continued⟩ := exists_of_bind_eq_ok compiled
        obtain ⟨following, others, rfl⟩ := exists_of_map_eq_ok continued
        obtain ⟨stage, isFirst, fromStage⟩ := exists_of_bind_eq_ok joining
        obtain ⟨child, required, _⟩ := exists_of_map_eq_ok fromStage
        rw [joinedColumns_of_firstStage isFirst required] at joining
        obtain rfl := Except.ok.inj joining
        obtain ⟨items, rfl, areAsked⟩ := ih others
        refine ⟨(stage.joinedNames child).map (⟨stage.associationName attr, ·⟩) ++ items, ?_, ?_⟩
        · rw [List.map_append, List.map_map]
          rfl
        · refine List.forall_mem_append.mpr ⟨?_, fun item member => later (areAsked item member)⟩
          refine List.forall_mem_map.mpr fun column isColumn => ?_
          exact ⟨_, List.mem_cons_self, isJoined, stage, child, isFirst, required, rfl, isColumn⟩
      · obtain ⟨items, rfl, areAsked⟩ := ih compiled
        exact ⟨items, rfl, fun item member => later (areAsked item member)⟩

end Selection

namespace Statement

variable {name : String} {query : Query}

/-- Joined rows can be taken apart.  The projection is the query's own columns and then one item for
each column that is asked of a joined association; if the associations are separable, the name of
every item gives back the association and the column that it reads, and no two items that read
different columns have the same name. -/
theorem separated_select {text : String} (plain : query.isAggregate = false)
    (separable : ∀ entry ∈ query.instructions, entry.2.join = .parentHoldsKey →
      ∀ stage ∈ entry.2.stages.head?, IsSeparable (stage.associationName entry.1))
    (selected : select schema dialect name query = .ok text) :
    ∃ table, ∃ items : List JoinedItem, schema.require name = .ok table ∧
      text = "SELECT " ++ String.intercalate ", "
          ((Selection.ownColumns table query.select).map (ColumnRef.text dialect.quote)
            ++ items.map (JoinedItem.text dialect.quote))
        ++ " FROM " ++ Table.sourceText dialect table.name ++ " " ∧
      (∀ item ∈ items, item.IsAsked schema query.instructions ∧
        JoinedItem.ofOutput? dialect.quote (item.output dialect.quote) = some item) ∧
      ∀ item ∈ items, ∀ other ∈ items,
        item.output dialect.quote = other.output dialect.quote → item = other := by
  obtain ⟨table, required, selecting⟩ := exists_of_bind_eq_ok selected
  obtain ⟨selection, compiled, rfl⟩ := exists_of_map_eq_ok selecting
  rw [Selection.of_plain plain] at compiled
  obtain ⟨entries, joined, rfl⟩ := exists_of_map_eq_ok compiled
  obtain ⟨items, rfl, areAsked⟩ := Selection.exists_items joined
  have areSeparable : ∀ item ∈ items, IsSeparable item.association := by
    intro item member
    obtain ⟨entry, isEntry, isJoined, stage, _, isFirst, _, isAssociation, _⟩ :=
      areAsked item member
    rw [isAssociation]
    exact separable entry isEntry isJoined stage (Instruction.head?_stages isFirst)
  refine ⟨table, items, required, ?_, fun item member => ⟨areAsked item member, ?_⟩, ?_⟩
  · simp only [Selection.text_fragments, List.map_append, List.map_map, Function.comp_def,
      Projected.text_column, JoinedItem.text_entry]
  · exact JoinedItem.ofOutput?_output (areSeparable item member) dialect.quote
  · intro item member other isOther
    exact JoinedItem.eq_of_output_eq (areSeparable item member) (areSeparable other isOther)

def underscoredSchema : Schema where
  tables := [
    ("user", {
      name := "user"
      attributes := [
        ("id", { type := some .integer, primaryKey := true }),
        ("team", Attribute.withForeignKey {} "team" "_id")] }),
    ("team", {
      name := "team"
      attributes := [("_id", {}), ("tag", { columnName := some "a___\"b" })] })]

def underscoredQuery : Query where
  select := some ["id"]
  instructions := [
    ("team", .of .parentHoldsKey [{
      parent := "user", parentKey := "team", child := "team", childKey := "_id" }]),
    ("team", .of .parentHoldsKey [{
      parent := "user", parentKey := "team", child := "team", childKey := "_id",
      association := "__my__team" }])]

def underscoredText : String :=
  "SELECT \"user\".\"id\", \"__team\".\"_id\" AS \"team____id\", "
    ++ "\"__team\".\"a___\"\"b\" AS \"team___a___\"\"b\", "
    ++ "\"____my__team\".\"_id\" AS \"__my__team____id\", "
    ++ "\"____my__team\".\"a___\"\"b\" AS \"__my__team___a___\"\"b\" "
    ++ "FROM \"user\" AS \"user\" "

theorem separated_select_underscores :
    ∃ items : List JoinedItem,
      (∀ entry ∈ underscoredQuery.instructions, entry.2.join = .parentHoldsKey →
        ∀ stage ∈ entry.2.stages.head?, IsSeparable (stage.associationName entry.1)) ∧
      select underscoredSchema {} "user" underscoredQuery = .ok underscoredText ∧
      underscoredText = "SELECT " ++ String.intercalate ", "
          (["\"user\".\"id\""] ++ items.map (JoinedItem.text '"'))
        ++ " FROM " ++ Table.sourceText {} "user" ++ " " ∧
      ∀ item ∈ items, JoinedItem.ofOutput? '"' (item.output '"') = some item := by
  have separable : ∀ entry ∈ underscoredQuery.instructions, entry.2.join = .parentHoldsKey →
      ∀ stage ∈ entry.2.stages.head?, IsSeparable (stage.associationName entry.1) := by decide
  let user := (underscoredSchema.table? "user").getD { name := "" }
  have isUser : underscoredSchema.require "user" = .ok user := by decide
  have own : (Selection.ownColumns user underscoredQuery.select).map (ColumnRef.text '"') =
      ["\"user\".\"id\""] := by
    decide
  have selected : select underscoredSchema {} "user" underscoredQuery = .ok underscoredText := by
    decide +kernel
  obtain ⟨table, items, required, text, read, _⟩ := separated_select rfl separable selected
  obtain rfl := Except.ok.inj (isUser.symm.trans required)
  rw [own] at text
  exact ⟨items, separable, selected, text, fun item member => (read item member).2⟩

end Statement

end QuerySql
