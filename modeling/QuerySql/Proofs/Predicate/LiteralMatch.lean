import QuerySql.Proofs.Predicate.TextMatch
import QuerySql.Proofs.Sql.Like

/-!
Matches and the texts that they accept.  The pattern that is bound for an operand matches what the
operand asks for, and an operand with wildcards of the caller's own is bound as it is.  Where the
column is folded, so is the operand.
-/

namespace QuerySql

open Sql

namespace Condition

variable {dialect : Dialect} (column : Column) (kind : TextMatch) (text : String)

theorem emitAll_textMatch (parameterized : dialect.parameterized) (bindings : Bindings) :
    Fragment.emitAll dialect bindings ((Condition.textMatch column kind text).fragments dialect) =
      (Fragment.text dialect (matchFront dialect column) ++ Bindings.placeholder bindings.next,
        { values := bindings.values ++ [.string (kind.pattern (matchedText dialect column text))]
          next := bindings.next + 1 }) := by
  have front := emitAll_matchFront dialect column dialect.parameterized bindings
  rw [fragments_textMatch, Fragment.emitAll_append, front]
  simp [Fragment.emitAll_cons, Fragment.emit, Bindings.bind, Value.normalized, parameterized]

theorem text_matchFront {folded : Bool} (isFolded : column.isFolded dialect true = folded) :
    Fragment.text dialect (matchFront dialect column) =
      (if folded then "LOWER(" ++ Fragment.text dialect column.ref.fragments ++ ")"
        else Fragment.text dialect column.ref.fragments)
        ++ (" " ++ patternComparator folded dialect.foldsCase ++ " ") := by
  rw [matchFront, isFolded]
  cases folded <;> simp [Fragment.text, Column.fragments, ColumnRef.fragments,
    Fragment.emitAll_cons, Fragment.emit, String.append_assoc]

end Condition

namespace Scope

variable {dialect : Dialect} {value : Value} {folded : Bool}

theorem textMatch_of_notNull (scope : Scope) (key spelling : String) (kind : TextMatch)
    (notNull : value.isNull = false) :
    scope.textMatch key spelling kind value =
      .ok (.condition (.textMatch (scope.column key) kind value.text)) := by
  rw [textMatch, notNull, if_neg Bool.false_ne_true]

/-- Every operand but null is bound as a pattern.  It is the operand itself where the wildcards are
the caller's, and it matches the texts that hold the operand, begin with it or end with it where
they are not.  The operand is in lower case where the column is. -/
theorem isLike_operand_iff (scope : Scope) (key spelling : String) (kind : TextMatch)
    (bindings : Bindings) (parameterized : dialect.parameterized) (notNull : value.isNull = false)
    (isFolded : (scope.column key).isFolded dialect true = folded) :
    ∃ predicate operand pattern,
      scope.operation key spelling (.textMatch kind) (.value value) = .ok predicate ∧
      (kind = .like → scope.patterns [(key, .value value)] = .ok [predicate]) ∧
      Fragment.emitAll dialect bindings (predicate.fragments dialect) =
        ((if folded then "LOWER(" ++ Fragment.text dialect (scope.column key).ref.fragments ++ ")"
            else Fragment.text dialect (scope.column key).ref.fragments)
            ++ (" " ++ patternComparator folded dialect.foldsCase ++ " ")
            ++ Bindings.placeholder bindings.next,
          { values := bindings.values ++ [.string pattern], next := bindings.next + 1 }) ∧
      operand = (if folded then Text.lower value.text else value.text) ∧
      (kind = .like → pattern = operand) ∧
      ∀ text : String, isLike pattern.toList text.toList = true ↔
        kind.Accepts operand.toList text.toList := by
  let column := scope.column key
  let operand := if folded then Text.lower value.text else value.text
  have matched : Condition.matchedText dialect column value.text = operand := by
    rw [Condition.matchedText, isFolded]
  have compiled := fun spelling => textMatch_of_notNull scope key spelling kind notNull
  refine ⟨.condition (.textMatch column kind value.text), operand, kind.pattern operand,
    compiled spelling, ?_, ?_, rfl, ?_, kind.isLike_pattern_iff operand⟩
  · rintro rfl
    rw [patterns, compiled]
    rfl
  · rw [Predicate.fragments, Condition.emitAll_textMatch column kind value.text parameterized,
      Condition.text_matchFront column isFolded, matched]
  · rintro rfl
    simp [TextMatch.pattern, TextMatch.before, TextMatch.after, TextMatch.isLiteral]

def notes : Table where
  name := "note"
  attributes := [("text", { type := some .text })]

theorem isLike_operand_iff_folded :
    ∃ predicate pattern,
      Scope.operation ⟨{}, notes, "note", []⟩ "text" "contains" (.textMatch .contains)
        (.value (.string "50%_\\A")) = .ok predicate ∧
      Fragment.emitAll {} {} (predicate.fragments {}) =
        ("LOWER(\"note\".\"text\") LIKE $1", { values := [.string pattern], next := 2 }) ∧
      (∀ text : String, isLike pattern.toList text.toList = true ↔
        "50%_\\a".toList <:+: text.toList) ∧
      isLike pattern.toList "up 50%_\\a day".toList = true ∧
      isLike pattern.toList "up 50 a day".toList = false := by
  obtain ⟨predicate, operand, pattern, compiled, _, emitted, rfl, _, accepts⟩ :=
    @isLike_operand_iff {} (.string "50%_\\A") true ⟨{}, notes, "note", []⟩ "text" "contains"
      .contains {} rfl rfl rfl
  have lowered : (if true then Text.lower (Value.string "50%_\\A").text
      else (Value.string "50%_\\A").text) = "50%_\\a" := by decide
  rw [lowered] at accepts
  refine ⟨predicate, pattern, compiled, emitted, accepts, (accepts _).mpr (by decide), ?_⟩
  exact Bool.eq_false_iff.mpr fun isMatch => absurd ((accepts _).mp isMatch) (by decide)

end Scope

end QuerySql
