import QuerySql.Proofs.Predicate.Lowered
import QuerySql.Proofs.Predicate.Texts
import QuerySql.Proofs.Statement.Clauses

namespace QuerySql

open Sql Sql.Fragment

variable {schema : Schema} {dialect : Dialect} {name : String} {table : Table} {query : Query}

namespace Conditions

theorem emitEach_congr {predicates predicates' : List Predicate}
    (same : predicates.map (Predicate.fragments dialect) =
      predicates'.map (Predicate.fragments dialect)) (bindings : Bindings) :
    emitEach dialect bindings predicates = emitEach dialect bindings predicates' := by
  induction predicates generalizing predicates' bindings with
  | nil =>
      obtain rfl : predicates' = [] := List.map_eq_nil_iff.mp same.symm
      rfl
  | cons predicate rest ih =>
      obtain ⟨predicate', rest', rfl, sameFirst, sameRest⟩ := List.map_eq_cons_iff.mp same.symm
      rw [emitEach_cons, emitEach_cons, sameFirst, ih sameRest.symm]

theorem write_lowered (folds : dialect.foldsCase) (schema : Schema) (table : Table)
    (query : Query) :
    (of schema table
        (query.withFilter ((scope schema table query).lowered query.criteria))).map
          (write dialect) =
      (of schema table query).map (write dialect) := by
  apply map_map_congr (Scope.fragments_expandAll_lowered folds _ query.criteria)
  intro predicates predicates' same
  rw [write, write]
  dsimp only
  rw [emitEach_congr same]
  rfl

theorem texts_write (dialect : Dialect) (conditions : Conditions) :
    (conditions.write dialect).predicates =
      Predicate.textsFrom dialect 1 conditions.predicates := by
  have start : Bindings.ContinueAt dialect 1 {} := fun _ => rfl
  have written := Predicate.emitParts_partsFragments start conditions.predicates
  rw [Predicate.partsFragments_eq_map, ← emitEach_eq_emitParts] at written
  exact written

theorem values_write (dialect : Dialect) (conditions : Conditions) :
    (conditions.write dialect).values =
      if dialect.parameterized then conditions.predicates.flatMap (Predicate.values dialect)
      else [] := by
  rw [(conditions.write_eq dialect).2, emitAll_values, conjunction, Predicate.bound_conjunction]
  rfl

end Conditions

namespace Condition

/-- The condition is written with the column in `LOWER` or not, and with the operands of the given
one, bound or as literals. -/
structure WrittenWith (dialect : Dialect) (condition : Condition) (lower : Bool)
    (given : Condition) : Prop where
  operands : condition.folded dialect = given
  text : ∀ next, condition.textAt dialect next =
    condition.textWith dialect lower (given.operandTexts dialect next)

variable {condition : Condition}

theorem writtenWith_lowered (lower : condition.isFolded dialect = true) :
    condition.WrittenWith dialect true condition.lowered where
  operands := if_pos lower
  text next := by rw [textAt, folded, lower, if_pos rfl]

theorem writtenWith_given (asGiven : condition.isFolded dialect = false) :
    condition.WrittenWith dialect false condition where
  operands := if_neg (Bool.eq_false_iff.mp asGiven)
  text next := by rw [textAt, folded, asGiven, if_neg Bool.false_ne_true]

end Condition

namespace Statement

/-- Where case is folded, the text that a column of text is compared with may be in lower case or
not.  Each condition of the criteria is written with its column in `LOWER` and all of its text in
lower case, bound or as literals, or with the column and the text as they are; and where case is not
folded, none of the words that ignore it is said, and every condition is written as it is. -/
theorem folded_conditions (dialect : Dialect) (query : Query)
    (required : schema.require name = .ok table) :
    (dialect.foldsCase → conditions schema dialect name
        (query.withFilter ((Conditions.scope schema table query).lowered query.criteria)) =
          conditions schema dialect name query) ∧
      ∀ compiled, Conditions.of schema table query = .ok compiled →
        conditions schema dialect name query = .ok (compiled.write dialect) ∧
        (compiled.write dialect).predicates =
          Predicate.textsFrom dialect 1 compiled.predicates ∧
        (compiled.write dialect).values =
          (if dialect.parameterized then compiled.predicates.flatMap (Predicate.values dialect)
            else []) ∧
        ∀ predicate ∈ compiled.predicates,
          (∀ single ∈ predicate.leaves,
            single ∈ ((Conditions.scope schema table query).leaves query.criteria).map
                Leaf.condition ∧
              (single.WrittenWith dialect true single.lowered ∨
                single.WrittenWith dialect false single)) ∧
          (dialect.foldsCase = false →
            Speak Predicate.plainWords (predicate.fragments dialect) ∧
              ∀ single ∈ predicate.leaves, single.WrittenWith dialect false single) := by
  refine ⟨fun folds => ?_, fun compiled isCompiled => ⟨?_, compiled.texts_write dialect,
    compiled.values_write dialect, fun predicate inPredicates => ⟨fun single isLeaf => ?_, ?_⟩⟩⟩
  · rw [conditions, conditions, required]
    exact Conditions.write_lowered folds schema table query
  · rw [conditions, required]
    exact congrArg (Except.map (Conditions.write dialect)) isCompiled
  · obtain ⟨predicates, expanded, rfl⟩ := exists_of_map_eq_ok isCompiled
    have asked := (Scope.leaves_expandAll _ query.criteria predicates expanded).subset
    refine ⟨asked (List.mem_flatMap.mpr ⟨predicate, inPredicates, isLeaf⟩), ?_⟩
    cases lower : single.isFolded dialect with
    | true => exact .inl (Condition.writtenWith_lowered lower)
    | false => exact .inr (Condition.writtenWith_given lower)
  · exact fun keepsCase => ⟨predicate.speak_plain_fragments keepsCase, fun single _ =>
      Condition.writtenWith_given (single.isFolded_eq_false keepsCase)⟩

def upperQuery : Query where
  filter := some [
    ("or", .list [
      .object [("name", .object [("contains", .value (.string "X%"))]), ("id", .value (.int 3))],
      .object [("team", .object [("label", .list [.value (.string "Core"), .value (.int 7)])])]]),
    ("name", .object [("not", .value (.string "Ann"))])]

theorem folded_conditions_sample :
    ∃ table compiled bound inlined, sampleSchema.require "user" = .ok table ∧
      Conditions.of sampleSchema table upperQuery = .ok compiled ∧
      conditions sampleSchema {} "user" upperQuery = .ok bound ∧
      conditions sampleSchema .mysql "user" upperQuery = .ok inlined ∧
      bound.predicates = [
        "((LOWER(\"user\".\"na\"\"$1\") LIKE $1 AND \"user\".\"id\" = $2) OR "
          ++ "(LOWER(\"__team\".\"label\") IN ($3,$4)))",
        "LOWER(\"user\".\"na\"\"$1\") <> $5"] ∧
      bound.values.map Value.text = ["%x\\%%", "3", "core", "7", "ann"] ∧
      inlined.predicates = [
        "((`user`.`na\"$1` LIKE \"%X\\%%\" AND `user`.`id` = 3) OR "
          ++ "(`__team`.`label` IN (\"Core\",7)))",
        "`user`.`na\"$1` <> \"Ann\""] ∧
      inlined.values.map Value.text = [] ∧
      conditions sampleSchema {} "user" (upperQuery.withFilter
        ((Conditions.scope sampleSchema table upperQuery).lowered upperQuery.criteria)) =
          .ok bound ∧
      bound.values = compiled.predicates.flatMap (Predicate.values {}) ∧
      ∀ predicate ∈ compiled.predicates, ∀ single ∈ predicate.leaves,
        single.WrittenWith .mysql false single := by
  obtain ⟨table, required⟩ : ∃ table, sampleSchema.require "user" = .ok table := ⟨_, rfl⟩
  have written : (conditions sampleSchema {} "user" upperQuery).map (fun bound =>
      (bound.predicates, bound.values.map Value.text)) = .ok ([
        "((LOWER(\"user\".\"na\"\"$1\") LIKE $1 AND \"user\".\"id\" = $2) OR "
          ++ "(LOWER(\"__team\".\"label\") IN ($3,$4)))",
        "LOWER(\"user\".\"na\"\"$1\") <> $5"], ["%x\\%%", "3", "core", "7", "ann"]) := by
    decide +kernel
  have writtenOut : (conditions sampleSchema .mysql "user" upperQuery).map (fun inlined =>
      (inlined.predicates, inlined.values.map Value.text)) = .ok ([
        "((`user`.`na\"$1` LIKE \"%X\\%%\" AND `user`.`id` = 3) OR "
          ++ "(`__team`.`label` IN (\"Core\",7)))",
        "`user`.`na\"$1` <> \"Ann\""], []) := by
    decide +kernel
  have keepsCase : Dialect.foldsCase .mysql = false := by decide
  obtain ⟨bound, isBound, areTexts⟩ := exists_of_map_eq_ok written
  obtain ⟨inlined, isInlined, areLiterals⟩ := exists_of_map_eq_ok writtenOut
  obtain ⟨texts, values⟩ := Prod.mk.inj areTexts
  obtain ⟨literals, noValues⟩ := Prod.mk.inj areLiterals
  have compiles : ∃ compiled, Conditions.of sampleSchema table upperQuery = .ok compiled := by
    rw [conditions, required] at isBound
    obtain ⟨compiled, isCompiled, _⟩ := exists_of_map_eq_ok isBound
    exact ⟨compiled, isCompiled⟩
  obtain ⟨compiled, isCompiled⟩ := compiles
  obtain ⟨same, folded⟩ := folded_conditions {} upperQuery required
  obtain ⟨_, plain⟩ := folded_conditions .mysql upperQuery required
  obtain ⟨isWritten, _, areBound, _⟩ := folded compiled isCompiled
  obtain rfl := Except.ok.inj (isBound.symm.trans isWritten)
  obtain ⟨_, _, _, asGiven⟩ := plain compiled isCompiled
  exact ⟨table, compiled, _, inlined, required, isCompiled, isBound, isInlined, texts, values,
    literals, noValues, (same rfl).trans isBound, areBound, fun predicate inPredicates =>
      ((asGiven predicate inPredicates).2 keepsCase).2⟩

end Statement

end QuerySql
