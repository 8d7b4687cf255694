import QuerySql.Proofs.Query.Reading
import QuerySql.Proofs.Statement.Insertion
import QuerySql.Proofs.Statement.Isolation

namespace QuerySql

open Sql Sql.Fragment

variable {schema : Schema} {dialect : Dialect}

namespace Json

def isFlat : Json → Bool
  | .null | .bool _ | .number _ | .string _ => true
  | .array _ | .object _ => false

theorem isFlat_ofFloat (value : Float) : (Json.ofFloat value).isFlat := by
  rw [ofFloat]
  cases Number.ofFloat? value <;> rfl

/-- The values in the document of a statement, its own and those of its populations. -/
def boundItems (document : Json) : List Json :=
  (document.fieldOrNull "values").items
    ++ (document.fieldOrNull "populations").items.flatMap fun template =>
      (template.fieldOrNull "values").items

end Json

namespace Value

/-- Values that every driver binds as they stand. -/
def isScalar : Value → Bool
  | .null | .bool _ | .int _ | .uint _ | .float _ | .string _ => true
  | .bytes _ | .date _ | .timestamp _ | .instant _ | .time _ | .uuid _ | .document _
  | .list _ => false

theorem of_isScalar (holds : Value → Prop) (null : holds .null) (bool : ∀ value, holds (.bool value))
    (int : ∀ value, holds (.int value)) (uint : ∀ value, holds (.uint value))
    (float : ∀ value, holds (.float value)) (string : ∀ value, holds (.string value))
    {value : Value} (scalar : value.isScalar) : holds value := by
  cases value with
  | null => exact null
  | bool value => exact bool value
  | int value => exact int value
  | uint value => exact uint value
  | float value => exact float value
  | string value => exact string value
  | bytes | date | timestamp | instant | time | uuid | document | list => cases scalar

theorem isScalar_normalized (value : Value) : value.normalized.isScalar := by
  cases value <;> rfl

theorem normalized_eq_self_iff {value : Value} : value.normalized = value ↔ value.isScalar := by
  constructor
  · intro fixed
    rw [← fixed]
    exact value.isScalar_normalized
  · exact of_isScalar (fun value => value.normalized = value) rfl (fun _ => rfl) (fun _ => rfl)
      (fun _ => rfl) (fun _ => rfl) fun _ => rfl

theorem serialized_of_isScalar {value : Value} (scalar : value.isScalar) :
    value.serialized = value.toJson :=
  of_isScalar (fun value => value.serialized = value.toJson) rfl (fun _ => rfl)
    (fun _ => rfl) (fun _ => rfl) (fun _ => rfl) (fun _ => rfl) scalar

theorem isFlat_serialized {value : Value} (scalar : value.isScalar) : value.serialized.isFlat :=
  of_isScalar (fun value => value.serialized.isFlat) rfl (fun _ => rfl)
    (fun _ => rfl) (fun _ => rfl) Json.isFlat_ofFloat (fun _ => rfl) scalar

structure Bindable (value : Value) : Prop where
  scalar : value.isScalar
  final : value.normalized = value
  exchanged : value.serialized = value.toJson

theorem bindable_of_isScalar {value : Value} (scalar : value.isScalar) : value.Bindable where
  scalar := scalar
  final := normalized_eq_self_iff.mpr scalar
  exchanged := serialized_of_isScalar scalar

end Value

namespace Sql.Fragment

theorem isScalar_bound (fragments : List Fragment) : ∀ value ∈ bound fragments, value.isScalar := by
  induction fragments with
  | nil => exact List.forall_mem_nil _
  | cons fragment rest ih =>
      cases fragment with
      | operand value => exact List.forall_mem_cons.mpr ⟨value.isScalar_normalized, ih⟩
      | pattern kind text => exact List.forall_mem_cons.mpr ⟨rfl, ih⟩
      | fixed text | quoted name | verbatim text | parentKey => exact ih

theorem bindable_emitAll (dialect : Dialect) (fragments : List Fragment) :
    ∀ value ∈ (emitAll dialect {} fragments).2.values, value.Bindable := by
  intro value member
  rw [emitAll_values, List.nil_append] at member
  split at member
  · exact Value.bindable_of_isScalar (isScalar_bound fragments value member)
  · cases member

end Sql.Fragment

/-- The document of a statement holds the values that the statement binds, all of them scalars. -/
structure Json.Exchanges (document : Json) (values : List Value) : Prop where
  bindable : ∀ value ∈ values, value.Bindable
  items : document.boundItems = values.map Value.toJson
  flat : ∀ item ∈ document.boundItems, item.isFlat

theorem Json.exchanges_of_bindable {document : Json} {values : List Value}
    (bindable : ∀ value ∈ values, value.Bindable)
    (items : document.boundItems = values.map Value.serialized) : document.Exchanges values where
  bindable := bindable
  items := items.trans (List.map_congr_left fun value member => (bindable value member).exchanged)
  flat := by
    rw [items]
    exact List.forall_mem_map.mpr fun value member =>
      Value.isFlat_serialized (bindable value member).scalar

namespace FindStatement

def boundValues (statement : FindStatement) : List Value :=
  statement.values ++ statement.populations.flatMap PopulationTemplate.values

theorem boundItems_toJson (statement : FindStatement) :
    statement.toJson.boundItems = statement.boundValues.map Value.serialized := by
  have templates : statement.toJson.boundItems = statement.values.map Value.serialized
      ++ (statement.populations.map PopulationTemplate.toJson).flatMap fun template =>
        (template.fieldOrNull "values").items := rfl
  rw [templates, boundValues, List.map_append, List.map_flatMap, List.flatMap_map]
  rfl

theorem exchanges_write (plan : FindPlan) :
    (plan.write dialect).toJson.Exchanges (plan.write dialect).boundValues := by
  refine Json.exchanges_of_bindable (List.forall_mem_append.mpr ⟨?_, ?_⟩)
    (boundItems_toJson _)
  · exact bindable_emitAll dialect (plan.fragments dialect)
  · refine List.forall_mem_flatMap.mpr (List.forall_mem_map.mpr fun population _ => ?_)
    exact bindable_emitAll dialect (population.fragments dialect)

end FindStatement

theorem InsertStatement.exchanges {statement : InsertStatement}
    (bindable : ∀ value ∈ statement.values, value.Bindable) :
    statement.toJson.Exchanges statement.values := by
  refine Json.exchanges_of_bindable bindable ?_
  have items : statement.toJson.boundItems = statement.values.map Value.serialized ++ [] := rfl
  rw [items, List.append_nil]

namespace Statement

/-- Whatever is asked for or stored, statements bind scalars only, and so do templates.  Documents of
statements hold no array and no object among their values. -/
theorem exchanges_statements (schema : Schema) (dialect : Dialect) (name : String) :
    (∀ query statement, find schema dialect name query = .ok statement →
        statement.toJson.Exchanges statement.boundValues) ∧
      (∀ attr instruction template,
        population schema dialect attr instruction = .ok (some template) →
          ∀ value ∈ template.values, value.Bindable) ∧
      ∀ record statement, insert schema dialect name record = .ok statement →
        statement.toJson.Exchanges statement.values := by
  refine ⟨fun query statement found => ?_, fun attr instruction template built => ?_,
    fun record statement inserted => ?_⟩
  · obtain ⟨plan, _, rfl⟩ := exists_of_map_eq_ok found
    exact FindStatement.exchanges_write plan
  · obtain ⟨populated, _, isTemplate⟩ := exists_of_map_eq_ok built
    obtain ⟨population, rfl, rfl⟩ := Option.map_eq_some_iff.mp isTemplate
    exact bindable_emitAll dialect (population.fragments dialect)
  · obtain ⟨table, required, written⟩ := exists_of_bind_eq_ok inserted
    split at written
    · cases written
    · cases written
      exact InsertStatement.exchanges (bindable_emitAll dialect (insertFragments dialect table record))

def nestedQuery : Query where
  filter := some [
    ("name", .value (.list [.int 1, .list [.null]])),
    ("id", .object [("not", .list [
      .value (.document (.object [("at", .array [])])), .value (.bytes [0x00])])])]
  instructions := sampleQuery.instructions

theorem exchanges_statements_nested :
    ∃ statement template inserted,
      find sampleSchema {} "user" nestedQuery = .ok statement ∧
      statement.boundValues.length = 4 ∧
      statement.toJson.Exchanges statement.boundValues ∧
      population sampleSchema {} "friends" friendInstruction = .ok (some template) ∧
      template.values.length = 4 ∧ (∀ value ∈ template.values, value.Bindable) ∧
      insert sampleSchema {} "user" sampleRecord = .ok inserted ∧
      inserted.toJson.Exchanges inserted.values := by
  have bound : (find sampleSchema {} "user" nestedQuery).map
      (fun statement => statement.boundValues.length) = .ok 4 := by decide
  have populated : (population sampleSchema {} "friends" friendInstruction).map
      (fun template => template.map fun template => template.values.length) = .ok (some 4) := by
    decide
  obtain ⟨statement, found, count⟩ := exists_of_map_eq_ok bound
  obtain ⟨template?, built, isCount⟩ := exists_of_map_eq_ok populated
  obtain ⟨template, rfl, templateCount⟩ := Option.map_eq_some_iff.mp isCount
  obtain ⟨inserted, stored⟩ : ∃ inserted,
      insert sampleSchema {} "user" sampleRecord = .ok inserted := ⟨_, rfl⟩
  obtain ⟨ofFind, ofPopulation, ofInsert⟩ := exchanges_statements sampleSchema {} "user"
  exact ⟨statement, template, inserted, found, count, ofFind _ _ found, built, templateCount,
    ofPopulation _ _ _ built, stored, ofInsert _ _ stored⟩

end Statement

end QuerySql
