import QuerySql.Proofs.Predicate.Extension
import QuerySql.Proofs.Statement.Insertion

namespace QuerySql

open Sql

variable {schema larger : Schema} (extension : schema.Extends larger)

include extension

namespace Selection

theorem keeps_joinedColumns (attr : String) (instruction : Instruction) :
    Keeps (joinedColumns schema attr instruction) (joinedColumns larger attr instruction) := by
  rw [joinedColumns, joinedColumns]
  exact (Keeps.refl _).bind fun stage => (extension stage.child).map _

theorem keeps_allJoinedColumns (instructions : List (String × Instruction)) :
    Keeps (allJoinedColumns schema instructions) (allJoinedColumns larger instructions) := by
  induction instructions with
  | nil => exact .refl _
  | cons entry rest ih =>
      obtain ⟨attr, instruction⟩ := entry
      rw [allJoinedColumns, allJoinedColumns]
      split
      · exact (keeps_joinedColumns extension attr instruction).bind fun columns => ih.map _
      · exact ih

theorem keeps_of (table : Table) (query : Query) :
    Keeps (of schema table query) (of larger table query) := by
  rw [of, of]
  refine Keeps.map ?_ _
  split
  · exact .refl _
  · exact (keeps_allJoinedColumns extension query.instructions).map _

end Selection

namespace Join

theorem keeps_of (attr : String) (instruction : Instruction) :
    Keeps (of schema attr instruction) (of larger attr instruction) := by
  rw [of, of]
  exact (Keeps.refl _).bind fun stage =>
    (extension stage.parent).bind fun parent => (extension stage.child).map _

theorem keeps_all (instructions : List (String × Instruction)) :
    Keeps (all schema instructions) (all larger instructions) := by
  induction instructions with
  | nil => exact .refl _
  | cons entry rest ih =>
      obtain ⟨attr, instruction⟩ := entry
      rw [all, all]
      split
      · exact (keeps_of extension attr instruction).bind fun join => ih.map _
      · exact ih

end Join

theorem Conditions.keeps_of (table : Table) (query : Query) :
    Keeps (Conditions.of schema table query) (Conditions.of larger table query) := by
  have sameScope : scope larger table query = (scope schema table query).inSchema larger := rfl
  rw [Conditions.of, Conditions.of, sameScope]
  exact (Scope.keeps_expandAll extension query.criteria).map _

namespace Population

theorem keeps_childConditions (child : Table) (stage : Stage) :
    Keeps (childConditions schema child stage) (childConditions larger child stage) := by
  rw [childConditions, childConditions]
  exact (extension child.name).bind fun table => Conditions.keeps_of extension table _

theorem keeps_perParent (attr : String) (stage : Stage) :
    Keeps (perParent schema attr stage) (perParent larger attr stage) := by
  rw [perParent, perParent]
  exact (extension stage.child).bind fun child =>
    (keeps_childConditions extension child stage).map _

theorem keeps_throughJunction (attr : String) (first second : Stage) :
    Keeps (throughJunction schema attr first second)
      (throughJunction larger attr first second) := by
  rw [throughJunction, throughJunction]
  exact (extension first.child).bind fun junction => (extension second.child).bind fun child =>
    (keeps_childConditions extension child second).map _

theorem keeps_of? (attr : String) (instruction : Instruction) :
    Keeps (of? schema attr instruction) (of? larger attr instruction) := by
  rw [of?, of?]
  cases instruction.join with
  | parentHoldsKey => exact .refl _
  | childHoldsKey =>
      exact ((Keeps.refl _).bind fun stage => keeps_perParent extension attr stage).map _
  | junction =>
      rcases instruction.stages with _ | ⟨first, _ | ⟨second, rest⟩⟩
      · exact .refl _
      · exact .refl _
      · exact (keeps_throughJunction extension attr first second).map _

theorem keeps_all (instructions : List (String × Instruction)) :
    Keeps (all schema instructions) (all larger instructions) := by
  induction instructions with
  | nil => exact .refl _
  | cons entry rest ih =>
      obtain ⟨attr, instruction⟩ := entry
      rw [all, all]
      exact (keeps_of? extension attr instruction).bind fun population => ih.map _

end Population

theorem FindPlan.keeps_of (name : String) (query : Query) :
    Keeps (FindPlan.of schema name query) (FindPlan.of larger name query) := by
  rw [FindPlan.of, FindPlan.of]
  exact (extension name).bind fun table =>
    (Selection.keeps_of extension table query).bind fun selection =>
      (Join.keeps_all extension query.instructions).bind fun joins =>
        (Conditions.keeps_of extension table query).bind fun conditions =>
          (Population.keeps_all extension query.instructions).map _

namespace Statement

theorem keeps_find (dialect : Dialect) (name : String) (query : Query) :
    Keeps (find schema dialect name query) (find larger dialect name query) := by
  rw [find, find]
  exact (FindPlan.keeps_of extension name query).map _

theorem keeps_select (dialect : Dialect) (name : String) (query : Query) :
    Keeps (select schema dialect name query) (select larger dialect name query) := by
  rw [select, select]
  exact (extension name).bind fun table => (Selection.keeps_of extension table query).map _

theorem keeps_insert (dialect : Dialect) (name : String) (record : List (String × Value)) :
    Keeps (insert schema dialect name record) (insert larger dialect name record) := by
  rw [insert, insert]
  exact (extension name).bind fun table => .refl _

omit extension

/-- Statements that succeed stay as they are when a table is added under an identity that is neither
an identity nor the name of a table, whatever the new table itself is called. -/
theorem unchanged_insert {identity : String} (fresh : schema.Fresh identity) (table : Table)
    (dialect : Dialect) (name : String) :
    (∀ query statement, find schema dialect name query = .ok statement →
        find (schema.insert identity table) dialect name query = .ok statement) ∧
      (∀ query text, select schema dialect name query = .ok text →
        select (schema.insert identity table) dialect name query = .ok text) ∧
      ∀ record statement, insert schema dialect name record = .ok statement →
        insert (schema.insert identity table) dialect name record = .ok statement := by
  have extension := fresh.extends_insert table
  exact ⟨fun query => keeps_find extension dialect name query,
    fun query => keeps_select extension dialect name query,
    fun record => keeps_insert extension dialect name record⟩

theorem unchanged_insert_crew :
    sampleSchema.Fresh "crew" ∧ ∃ statement text inserted,
      find sampleSchema {} "user" sampleQuery = .ok statement ∧
      select sampleSchema {} "user" sampleQuery = .ok text ∧
      insert sampleSchema {} "user" sampleRecord = .ok inserted ∧
      find (sampleSchema.insert "crew" { name := "team" }) {} "user" sampleQuery = .ok statement ∧
      select (sampleSchema.insert "crew" { name := "team" }) {} "user" sampleQuery = .ok text ∧
      insert (sampleSchema.insert "crew" { name := "team" }) {} "user" sampleRecord =
        .ok inserted := by
  have fresh : sampleSchema.Fresh "crew" := by decide
  obtain ⟨statement, found⟩ : ∃ statement,
      find sampleSchema {} "user" sampleQuery = .ok statement := ⟨_, rfl⟩
  obtain ⟨text, selected⟩ : ∃ text, select sampleSchema {} "user" sampleQuery = .ok text := ⟨_, rfl⟩
  obtain ⟨inserted, stored⟩ : ∃ inserted,
      insert sampleSchema {} "user" sampleRecord = .ok inserted := ⟨_, rfl⟩
  obtain ⟨sameFind, sameSelect, sameInsert⟩ := unchanged_insert fresh { name := "team" } {} "user"
  exact ⟨fresh, statement, text, inserted, found, selected, stored, sameFind _ _ found,
    sameSelect _ _ selected, sameInsert _ _ stored⟩

end Statement

end QuerySql
