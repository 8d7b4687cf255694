import QuerySql.Proofs.Predicate.Veil
import QuerySql.Proofs.Sql.Blanked
import QuerySql.Proofs.Statement.Clauses

namespace QuerySql

open Sql Sql.Fragment

def Veil.blank : Veil where
  change := Value.blanked
  view := Fragment.blanked
  isNull_change := Value.isNull_blanked
  isString_change := Value.isString_blanked
  view_fixed _ := rfl
  view_operand folded value := by cases folded <;> simp [operandFragment, Fragment.blanked]
  view_pattern _ _ _ := rfl

namespace Conditions

variable {dialect : Dialect} (conditions conditions' : Conditions)

theorem lexemes_write (inline : dialect.parameterized = false) (backtick : dialect.quote = '`')
    (same : conditions.predicates.map (Veil.blank.outline dialect) =
      conditions'.predicates.map (Veil.blank.outline dialect)) :
    (conditions.write dialect).predicate? = none ∧ (conditions'.write dialect).predicate? = none ∨
      ∃ text text' lexemes lexemes',
        (conditions.write dialect).predicate? = some text ∧
        (conditions'.write dialect).predicate? = some text' ∧
        Lexeme.ofText? text = some lexemes ∧ Lexeme.ofText? text' = some lexemes' ∧
        lexemes.map Lexeme.marked = lexemes'.map Lexeme.marked := by
  rw [(conditions.write_eq dialect).1, (conditions'.write_eq dialect).1, isEmpty_eq_of_map_eq same]
  split
  · exact .inl ⟨rfl, rfl⟩
  · have sameTexts : (conditions.conjunction dialect).map Fragment.blanked =
        (conditions'.conjunction dialect).map Fragment.blanked :=
      (Veil.blank.view_conjunction dialect _).trans
        ((congrArg Predicate.conjunction same).trans
          (Veil.blank.view_conjunction dialect _).symm)
    obtain ⟨lexemes, lexemes', read, read', sameMarks⟩ :=
      ofText?_text_congr inline backtick
        (fun quote => Predicate.tidy_conjunction quote dialect conditions.predicates)
        (fun quote => Predicate.tidy_conjunction quote dialect conditions'.predicates) sameTexts
    exact .inr ⟨_, _, lexemes, lexemes', rfl, rfl, read, read', sameMarks⟩

end Conditions

namespace Statement

variable {schema : Schema} {dialect : Dialect} {name : String} {query : Query}

/-- Criteria that differ in the contents of texts only fail alike, or their conditions are written
with the same lexemes, but for what stands in literals, of which there are equally many. -/
theorem lexemes_conditions {left right : Criteria} (inline : dialect.parameterized = false)
    (backtick : dialect.quote = '`')
    (same : Filter.mappedEntries Value.blanked left = Filter.mappedEntries Value.blanked right) :
    (∃ error, conditions schema dialect name (query.withFilter left) = .error error ∧
        conditions schema dialect name (query.withFilter right) = .error error) ∨
      ∃ written written',
        conditions schema dialect name (query.withFilter left) = .ok written ∧
        conditions schema dialect name (query.withFilter right) = .ok written' ∧
        (written.predicate? = none ∧ written'.predicate? = none ∨
          ∃ text text' lexemes lexemes',
            written.predicate? = some text ∧ written'.predicate? = some text' ∧
            Lexeme.ofText? text = some lexemes ∧ Lexeme.ofText? text' = some lexemes' ∧
            lexemes.map Lexeme.marked = lexemes'.map Lexeme.marked ∧
            lexemes.countP Lexeme.isLiteral = lexemes'.countP Lexeme.isLiteral) := by
  cases required : schema.require name with
  | error error =>
      refine .inl ⟨error, ?_, ?_⟩ <;> rw [conditions, required] <;> rfl
  | ok table =>
      let scope := Conditions.scope schema table query
      have sameOutlines : (scope.expandAll left).map (List.map (Veil.blank.outline dialect)) =
          (scope.expandAll right).map (List.map (Veil.blank.outline dialect)) := by
        rw [← Scope.outline_mapped_expandAll, ← Scope.outline_mapped_expandAll _ _ _ right]
        exact congrArg (fun criteria => (scope.expandAll criteria).map _) same
      have compiled (criteria : Criteria) :
          conditions schema dialect name (query.withFilter criteria) =
            (scope.expandAll criteria).map fun predicates =>
              Conditions.write dialect { predicates, tail := Tail.of table query } := by
        rw [conditions, required]
        change ((scope.expandAll criteria).map _).map _ = _
        cases scope.expandAll criteria <;> rfl
      rw [compiled, compiled]
      rcases error_or_ok_of_map_eq sameOutlines with
        ⟨error, fails, fails'⟩ | ⟨predicates, predicates', expanded, expanded', sameParts⟩
      · rw [fails, fails']
        exact .inl ⟨error, rfl, rfl⟩
      · rw [expanded, expanded']
        refine .inr ⟨_, _, rfl, rfl, ?_⟩
        rcases Conditions.lexemes_write ⟨predicates, Tail.of table query⟩
            ⟨predicates', Tail.of table query⟩ inline backtick sameParts with
          none | ⟨text, text', lexemes, lexemes', isText, isText', read, read', sameMarks⟩
        · exact .inl none
        · exact .inr ⟨text, text', lexemes, lexemes', isText, isText', read, read', sameMarks,
            Lexeme.countP_isLiteral_congr sameMarks⟩

def textCriteria (text : String) : Criteria := [
  ("name", .value (.string text)),
  ("or", .list [
    .object [("name", .object [
      ("contains", .value (.string text)),
      (">", .value (.string text))])],
    .object [("team", .object [("label", .list [.value (.int 7), .value (.string text)])])]]),
  ("like", .object [("name", .value (.string text))])]

theorem lexemes_conditions_sample :
    ∃ written written' text text' lexemes lexemes',
      Filter.mappedEntries Value.blanked (textCriteria "Ann") =
        Filter.mappedEntries Value.blanked (textCriteria "%\\\" OR 1=1 --`") ∧
      conditions sampleSchema Dialect.mysql "user" (Query.withFilter {} (textCriteria "Ann")) =
        .ok written ∧
      conditions sampleSchema Dialect.mysql "user"
        (Query.withFilter {} (textCriteria "%\\\" OR 1=1 --`")) = .ok written' ∧
      written.predicate? = some text ∧ written'.predicate? = some text' ∧
      Lexeme.ofText? text = some lexemes ∧ Lexeme.ofText? text' = some lexemes' ∧
      lexemes.map Lexeme.marked = lexemes'.map Lexeme.marked := by
  have same : Filter.mappedEntries Value.blanked (textCriteria "Ann") =
      Filter.mappedEntries Value.blanked (textCriteria "%\\\" OR 1=1 --`") := rfl
  have constrained : (conditions sampleSchema Dialect.mysql "user"
      (Query.withFilter {} (textCriteria "Ann"))).map (fun written => written.predicate?.isSome) =
        .ok true := by decide
  obtain ⟨written, compiled, isSome⟩ := exists_of_map_eq_ok constrained
  rcases @lexemes_conditions sampleSchema Dialect.mysql "user" {} _ _ rfl rfl same with
    ⟨error, fails, _⟩ | ⟨_, written', isWritten, compiled', ⟨isNone, _⟩ | texts⟩
  · rw [compiled] at fails
    cases fails
  · rw [compiled] at isWritten
    cases isWritten
    rw [isNone] at isSome
    cases isSome
  · rw [compiled] at isWritten
    cases isWritten
    obtain ⟨text, text', lexemes, lexemes', isText, isText', read, read', sameMarks, _⟩ := texts
    exact ⟨written, written', text, text', lexemes, lexemes', same, compiled, compiled', isText,
      isText', read, read', sameMarks⟩

end Statement

end QuerySql
