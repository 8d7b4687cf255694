import QuerySql.Proofs.Json.Distinct
import QuerySql.Proofs.Outcome
import QuerySql.Schema.Basic

namespace QuerySql

namespace Schema

variable {schema larger : Schema} {identity : String}

/-- Every name of a table in the one schema finds the same table in the other. -/
def Extends (schema larger : Schema) : Prop :=
  ∀ name, Keeps (schema.require name) (larger.require name)

/-- An identity that finds no table. -/
def Fresh (schema : Schema) (identity : String) : Prop :=
  ∀ entry ∈ schema.tables, entry.1 ≠ identity ∧ entry.2.name ≠ identity

instance : Decidable (schema.Fresh identity) :=
  inferInstanceAs (Decidable (∀ entry ∈ schema.tables, entry.1 ≠ identity ∧ entry.2.name ≠ identity))

theorem Fresh.tables_insert (fresh : schema.Fresh identity) (table : Table) :
    (schema.insert identity table).tables = schema.tables ++ [(identity, named identity table)] := by
  refine Fields.put_of_notMem fun member => ?_
  obtain ⟨entry, inTables, isIdentity⟩ := List.mem_map.mp member
  exact (fresh entry inTables).1 isIdentity

theorem Fresh.table?_insert (fresh : schema.Fresh identity) (table : Table) (name : String) :
    (schema.insert identity table).table? name =
      (schema.table? name).or
        (if identity = name ∨ (named identity table).name = name then some (named identity table)
        else none) := by
  rw [table?, table?, fresh.tables_insert, List.find?_append, List.find?_append]
  by_cases isIdentity : identity = name
  · -- Nothing else is found by the new identity, neither in the first pass nor in the second.
    subst isIdentity
    have noIdentity : schema.tables.find? (fun entry => entry.1 == identity) = none :=
      List.find?_eq_none.mpr fun entry member => by simpa using (fresh entry member).1
    have noName : schema.tables.find? (fun entry => entry.2.name == identity) = none :=
      List.find?_eq_none.mpr fun entry member => by simpa using (fresh entry member).2
    simp [noIdentity, noName]
  · have others : (schema.tables.find? fun entry => entry.1 == name).or
        ([(identity, named identity table)].find? fun entry => entry.1 == name) =
          schema.tables.find? fun entry => entry.1 == name := by
      simp [isIdentity]
    rw [others, ← Option.or_assoc, Option.map_or]
    by_cases isName : (named identity table).name = name <;> simp [isIdentity, isName]

theorem Fresh.extends_insert (fresh : schema.Fresh identity) (table : Table) :
    schema.Extends (schema.insert identity table) := by
  intro name found required
  rw [require, fresh.table?_insert]
  rw [require] at required
  cases looked : schema.table? name with
  | none =>
      rw [looked] at required
      cases required
  | some known =>
      rw [looked] at required
      exact required

end Schema

end QuerySql
