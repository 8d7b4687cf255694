import QuerySql.Proofs.Predicate.Expansion
import QuerySql.Proofs.Sql.PatternLiteral

namespace QuerySql

open Sql

namespace Condition

variable (dialect : Dialect) (column : Column) (kind : TextMatch) (text : String)

def matchFront : List Fragment :=
  let folded := column.isFolded dialect true
  column.fragments folded ++ [.fixed (" " ++ patternComparator folded dialect.foldsCase ++ " ")]

def matchedText : String :=
  if column.isFolded dialect true then Text.lower text else text

theorem fragments_textMatch :
    (Condition.textMatch column kind text).fragments dialect =
      matchFront dialect column ++ [.pattern kind (matchedText dialect column text)] := by
  simp only [fragments, matchFront, matchedText, List.append_assoc, List.singleton_append]

theorem emitAll_matchFront (parameterized : Bool) (bindings : Bindings) :
    Fragment.emitAll { dialect with parameterized } bindings (matchFront dialect column) =
      (Fragment.text dialect (matchFront dialect column), bindings) := by
  rw [Fragment.text, matchFront]
  cases column.isFolded dialect true <;> rfl

theorem mem_matchedText_iff :
    '\\' ∈ (matchedText dialect column text).toList ↔ '\\' ∈ text.toList := by
  rw [matchedText]
  split
  · exact Text.mem_lower_iff text
  · rfl

end Condition

namespace Scope

variable {scope : Scope} {key spelling : String} {kind : TextMatch} {value : Value}
  {predicate : Predicate}

/-- With and without placeholders a match is written alike up to its operand.  The literal stands
for the bound pattern unless the operand is taken literally and has a backslash. -/
theorem decoded_operand_iff (dialect : Dialect) (bindings : Bindings)
    (compiled : scope.operation key spelling (.textMatch kind) (.value value) = .ok predicate) :
    ∃ front literal pattern,
      Fragment.emitAll { dialect with parameterized := true } bindings
          (predicate.fragments { dialect with parameterized := true }) =
        (front ++ Bindings.placeholder bindings.next,
          { values := bindings.values ++ [.string pattern], next := bindings.next + 1 }) ∧
      Fragment.emitAll { dialect with parameterized := false } bindings
          (predicate.fragments { dialect with parameterized := false }) =
        (front ++ literal, bindings) ∧
      (decodeLiteral? literal = some pattern ↔ kind = .like ∨ '\\' ∉ value.text.toList) := by
  have isMatch := textMatch_eq compiled
  subst isMatch
  let column := scope.column key
  let matched := Condition.matchedText dialect column value.text
  have fragments (parameterized : Bool) :
      (Condition.textMatch column kind value.text).fragments { dialect with parameterized } =
        Condition.matchFront dialect column ++ [.pattern kind matched] :=
    Condition.fragments_textMatch dialect column kind value.text
  refine ⟨Fragment.text dialect (Condition.matchFront dialect column), kind.patternLiteral matched,
    kind.pattern matched, ?_, ?_, ?_⟩
  · rw [Predicate.fragments, fragments, Fragment.emitAll_append, Condition.emitAll_matchFront]
    simp [Fragment.emitAll_cons, Fragment.emit, Bindings.bind, Value.normalized]
  · rw [Predicate.fragments, fragments, Fragment.emitAll_append, Condition.emitAll_matchFront]
    simp [Fragment.emitAll_cons, Fragment.emit]
  · rw [TextMatch.decodeLiteral?_patternLiteral_eq_iff, Condition.mem_matchedText_iff]

theorem decoded_operand_iff_sample :
    ∃ predicate front literal pattern,
      Scope.operation ⟨{}, { name := "t" }, "t", []⟩ "name" "contains" (.textMatch .contains)
        (.value (.string "50%")) = .ok predicate ∧
      Fragment.emitAll { Dialect.mysql with parameterized := true } {}
          (predicate.fragments { Dialect.mysql with parameterized := true }) =
        (front ++ "$1", { values := [.string pattern], next := 2 }) ∧
      Fragment.emitAll { Dialect.mysql with parameterized := false } {}
          (predicate.fragments { Dialect.mysql with parameterized := false }) =
        (front ++ literal, {}) ∧
      decodeLiteral? literal = some pattern := by
  have compiled : Scope.operation ⟨{}, { name := "t" }, "t", []⟩ "name" "contains"
      (.textMatch .contains) (.value (.string "50%")) =
        .ok (.condition (.textMatch ⟨⟨"t", "name"⟩, false⟩ .contains "50%")) := by rfl
  obtain ⟨front, literal, pattern, bound, inlined, decoded⟩ :=
    decoded_operand_iff Dialect.mysql {} compiled
  have noBackslash : '\\' ∉ (Value.string "50%").text.toList := by decide
  exact ⟨_, front, literal, pattern, compiled, bound, inlined, decoded.mpr (.inr noBackslash)⟩

/-- A backslash is escaped in the bound pattern, but not in the one that the literal stands for. -/
theorem decoded_backslash_ne :
    ∃ predicate literal pattern,
      Scope.operation ⟨{}, { name := "t" }, "t", []⟩ "name" "contains" (.textMatch .contains)
        (.value (.string "\\")) = .ok predicate ∧
      Fragment.emitAll { Dialect.mysql with parameterized := true } {}
          (predicate.fragments { Dialect.mysql with parameterized := true }) =
        ("`t`.`name` LIKE $1", { values := [.string pattern], next := 2 }) ∧
      Fragment.emitAll { Dialect.mysql with parameterized := false } {}
          (predicate.fragments { Dialect.mysql with parameterized := false }) =
        ("`t`.`name` LIKE " ++ literal, {}) ∧
      decodeLiteral? literal ≠ some pattern :=
  ⟨_, "\"%\\\\%\"", "%\\\\%", rfl, rfl, rfl, by decide⟩

end Scope

end QuerySql
