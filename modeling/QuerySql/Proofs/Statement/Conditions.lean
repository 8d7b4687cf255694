import QuerySql.Proofs.Predicate.Reading
import QuerySql.Proofs.Sql.Emission
import QuerySql.Proofs.Statement.Placeholders

namespace QuerySql

open Sql Sql.Fragment

theorem Meaning.WrittenAs.emitAll {dialect : Dialect} {meaning : Meaning}
    {fragments : List Fragment} (written : meaning.WrittenAs fragments)
    (parameterized : dialect.parameterized) (isQuote : dialect.quote = '"')
    (tidy : Tidy '"' fragments) :
    (Fragment.emitAll dialect {} fragments).2.values = meaning.operands ∧
      ∃ formula, Formula.ofText? (Fragment.emitAll dialect {} fragments).1 = some formula ∧
        ∀ truth, formula.holds truth = meaning.holds truth 1 := by
  constructor
  · rw [emitAll_bound parameterized, written.bound_eq]
    rfl
  · exact (written.reads 1).alternatives.ofText?
      (Token.ofText?_emitAll parameterized isQuote tidy)

namespace Conditions

variable {dialect : Dialect}

theorem emitEach_eq_emitParts (bindings : Bindings) (predicates : List Predicate) :
    emitEach dialect bindings predicates =
      emitParts dialect bindings (predicates.map (Predicate.fragments dialect)) := by
  induction predicates generalizing bindings with
  | nil => rfl
  | cons predicate rest ih => rw [emitEach_cons, List.map_cons, emitParts_cons, ih]

theorem emitEach_eq (bindings : Bindings) (predicates : List Predicate) :
    (String.intercalate " AND " (emitEach dialect bindings predicates).1,
        (emitEach dialect bindings predicates).2) =
      emitAll dialect bindings
        (Predicate.conjunction (predicates.map (Predicate.fragments dialect))) := by
  rw [Predicate.conjunction, emitAll_separated, emitEach_eq_emitParts]

end Conditions

namespace Statement

variable {schema : Schema} {dialect : Dialect} {name : String} {query : Query}

/-- Criteria that constrain nothing have no predicate, and the predicate of all others is read as
a formula with the meaning of the criteria. -/
theorem predicate_conditions {written : WrittenConditions} (parameterized : dialect.parameterized)
    (isQuote : dialect.quote = '"')
    (compiled : conditions schema dialect name query = .ok written) :
    ∃ table meaning, schema.require name = .ok table ∧
      (Conditions.scope schema table query).meaning dialect query.criteria = meaning ∧
      written.values = meaning.operands ∧
      (written.predicate? = none ↔ meaning.constrains = false) ∧
      ∀ text, written.predicate? = some text →
        ∃ formula, Formula.ofText? text = some formula ∧
          ∀ truth, formula.holds truth = meaning.holds truth 1 := by
  obtain ⟨table, required, conditioning⟩ := exists_of_bind_eq_ok compiled
  obtain ⟨_, conditioned, rfl⟩ := exists_of_map_eq_ok conditioning
  obtain ⟨predicates, expanded, rfl⟩ := exists_of_map_eq_ok conditioned
  have express := Scope.express_expandAll dialect _ _ _ expanded
  refine ⟨table, _, required, rfl, ?_⟩
  rw [express.meaning_eq]
  cases predicates with
  | nil => exact ⟨rfl, ⟨fun _ => rfl, fun _ => rfl⟩, nofun⟩
  | cons predicate rest =>
      have notEmpty : predicate :: rest ≠ [] := nofun
      have constrains : (Meaning.all
          ((predicate :: rest).map (Predicate.meaning dialect))).constrains :=
        Meaning.constrains_all notEmpty fun part member =>
          (express.wellFormed part member).constrains dialect
      have writtenAs := Meaning.writtenAs_all notEmpty fun part member =>
        (express.wellFormed part member).writtenAs dialect
      obtain ⟨values, formula⟩ := writtenAs.emitAll parameterized isQuote
        (Predicate.tidy_conjunction '"' dialect (predicate :: rest))
      rw [← Conditions.emitEach_eq] at values formula
      refine ⟨values, ⟨nofun, fun isFree => ?_⟩, ?_⟩
      · rw [constrains] at isFree
        cases isFree
      · intro text isText
        cases isText
        exact formula

theorem predicate_conditions_sample :
    ∃ written table text formula,
      conditions sampleSchema {} "user" sampleQuery = .ok written ∧
      sampleSchema.require "user" = .ok table ∧ written.values.length = 4 ∧
      written.predicate? = some text ∧ Formula.ofText? text = some formula ∧
      ∀ truth, formula.holds truth =
        ((Conditions.scope sampleSchema table sampleQuery).meaning {} sampleQuery.criteria).holds
          truth 1 := by
  have counted : (conditions sampleSchema {} "user" sampleQuery).map (fun written =>
      (written.values.length, written.predicate?.isSome)) = .ok (4, true) := by decide
  obtain ⟨written, compiled, isCount⟩ := exists_of_map_eq_ok counted
  obtain ⟨count, isSome⟩ := Prod.mk.inj isCount
  obtain ⟨text, isText⟩ := Option.isSome_iff_exists.mp isSome
  obtain ⟨table, _, required, rfl, _, _, reads⟩ := predicate_conditions rfl rfl compiled
  obtain ⟨formula, isFormula, holds⟩ := reads text isText
  exact ⟨written, table, text, formula, compiled, required, count, isText, isFormula, holds⟩

end Statement

end QuerySql
