import QuerySql.Proofs.Predicate.Expansion

namespace QuerySql

open Sql Sql.Fragment Sql.Formula

namespace Column

variable {outer : List Level} {level : Level}

theorem parse_fragments (column : Column) (folded : Bool) (next : Nat) (rest : List Token) :
    parseOperand outer level (tokens next (column.fragments folded) ++ rest) =
      parseTest outer level (column.operand folded) rest := by
  cases folded with
  | false => simp [fragments, ColumnRef.fragments, tokens, parseOperand, operand]
  | true =>
      simp [fragments, ColumnRef.fragments, tokens, parseOperand, operand]

theorem bound_fragments (column : Column) (folded : Bool) :
    bound (column.fragments folded) = [] := by
  cases folded <;> rfl

end Column

namespace Condition

variable {outer : List Level} {level : Level} (dialect : Dialect)

theorem bound_separated_operands (folded : Bool) (operands : List Value) :
    bound (separated "," (operands.map fun operand => [operandFragment folded operand])) =
      operands.map (Value.compared folded) := by
  induction operands with
  | nil => rfl
  | cons operand rest ih =>
      cases rest with
      | nil => rfl
      | cons next rest => exact congrArg (operand.compared folded :: ·) ih

theorem bound_fragments (condition : Condition) :
    bound (condition.fragments dialect) = condition.operands dialect := by
  cases condition with
  | constant holds => rfl
  | null column negated => rfl
  | compare column relation operand =>
      rw [fragments, bound_append, Column.bound_fragments]
      rfl
  | member column negated operands =>
      simp only [fragments, bound_append, bound, Column.bound_fragments, List.append_assoc,
        List.cons_append, List.nil_append, bound_separated_operands, List.append_nil]
      rfl
  | textMatch column kind text =>
      rw [fragments, bound_append, Column.bound_fragments]
      rfl

theorem parseList_operands (outer : List Level) (level : Level) (column : Operand)
    (negated folded : Bool) (values : List Nat) (next : Nat) {operands : List Value}
    (notEmpty : operands ≠ []) (rest : List Token) :
    parseList outer level column negated values
        (tokens next (separated "," (operands.map fun operand => [operandFragment folded operand]))
          ++ .right :: rest) =
      parseOperator outer
        (level.add (.atom (.member column negated
          (values ++ List.range' next operands.length)))) rest := by
  induction operands generalizing values next with
  | nil => exact absurd rfl notEmpty
  | cons operand others ih =>
      cases others with
      | nil => rfl
      | cons other others =>
          have following := ih (values ++ [next]) (next + 1) nofun
          rw [List.append_assoc, List.singleton_append] at following
          simp only [List.map_cons, separated, operandFragment, List.cons_append, List.nil_append,
            tokens, Token.ofText_comma, parseList] at following ⊢
          exact following

theorem parse_fragments {condition : Condition} (wellFormed : condition.WellFormed) (next : Nat)
    (rest : List Token) :
    parseOperand outer level (tokens next (condition.fragments dialect) ++ rest) =
      parseOperator outer (level.add (.atom (condition.atom dialect next))) rest := by
  cases condition with
  | constant holds =>
      rw [fragments, tokens, Token.ofText_constant]
      cases holds <;> simp [tokens, parseOperand, atom]
  | null column negated =>
      rw [fragments, tokens_append, List.append_assoc, Column.parse_fragments]
      cases negated <;> simp [tokens, parseTest, atom]
  | compare column relation operand =>
      rw [fragments, tokens_append, List.append_assoc, Column.parse_fragments,
        Column.bound_fragments]
      simp [tokens, operandFragment, parseTest, atom]
  | member column negated operands =>
      let folded := column.isFolded dialect (operands.any Value.isString)
      have listed := parseList_operands outer level (column.operand folded) negated folded [] next
        wellFormed rest
      rw [fragments, List.append_assoc, tokens_append, List.append_assoc, Column.parse_fragments,
        Column.bound_fragments]
      cases negated
      · simpa [tokens, tokens_append, parseTest, atom] using listed
      · simpa [tokens, tokens_append, parseTest, atom] using listed
  | textMatch column kind text =>
      rw [fragments, tokens_append, List.append_assoc, Column.parse_fragments,
        Column.bound_fragments, tokens, Token.ofText_patternComparator, atom]
      cases !column.isFolded dialect true && dialect.foldsCase <;> simp [tokens, parseTest]

end Condition

/-- Fragments that bind the values of a meaning and are read as a condition with it. -/
structure Meaning.WrittenAs (meaning : Meaning) (fragments : List Fragment) : Prop where
  bound_eq : bound fragments = meaning.operands
  reads : ∀ next, Reads (tokens next fragments) fun truth => meaning.holds truth next

structure Meaning.WrittenAsAlternatives (meaning : Meaning) (fragments : List Fragment) : Prop where
  bound_eq : bound fragments = meaning.operands
  reads : ∀ next, ReadsAlternatives (tokens next fragments) fun truth => meaning.holds truth next

namespace Meaning

variable {first second meaning : Meaning} {front back fragments : List Fragment}

theorem WrittenAs.alternatives (written : meaning.WrittenAs fragments) :
    meaning.WrittenAsAlternatives fragments :=
  ⟨written.bound_eq, fun next => (written.reads next).alternatives⟩

theorem WrittenAs.both (frontWritten : first.WrittenAs front)
    (backWritten : second.WrittenAs back) :
    (first.both second).WrittenAs (front ++ .fixed " AND " :: back) where
  bound_eq := by
    rw [bound_append, bound, frontWritten.bound_eq, backWritten.bound_eq]
    rfl
  reads next := by
    rw [tokens_append, tokens, Token.ofText_and, List.singleton_append, frontWritten.bound_eq]
    exact (frontWritten.reads next).and (backWritten.reads _)

theorem WrittenAsAlternatives.either (firstConstrains : first.constrains)
    (secondConstrains : second.constrains) (frontWritten : first.WrittenAsAlternatives front)
    (backWritten : second.WrittenAsAlternatives back) :
    (first.either second).WrittenAsAlternatives (front ++ .fixed " OR " :: back) where
  bound_eq := by
    rw [bound_append, bound, frontWritten.bound_eq, backWritten.bound_eq,
      operands_either firstConstrains secondConstrains]
  reads next := by
    rw [tokens_append, tokens, Token.ofText_or, List.singleton_append, frontWritten.bound_eq]
    exact (frontWritten.reads next).or (backWritten.reads _)

theorem WrittenAsAlternatives.parenthesized (written : meaning.WrittenAsAlternatives fragments) :
    meaning.WrittenAs (Predicate.parenthesized fragments) where
  bound_eq := by
    rw [Predicate.parenthesized, bound_append, bound, written.bound_eq]
    exact List.append_nil _
  reads next := by
    rw [Predicate.parenthesized, tokens_append, tokens, Token.ofText_left, tokens,
      Token.ofText_right]
    exact (written.reads next).parenthesized

variable {α : Type} {meaningOf : α → Meaning} {fragmentsOf : α → List Fragment}

theorem writtenAs_all {items : List α} (notEmpty : items ≠ [])
    (written : ∀ item ∈ items, (meaningOf item).WrittenAs (fragmentsOf item)) :
    (all (items.map meaningOf)).WrittenAs (Predicate.conjunction (items.map fragmentsOf)) := by
  induction items with
  | nil => exact absurd rfl notEmpty
  | cons item rest ih =>
      have itemWritten := written item List.mem_cons_self
      cases rest with
      | nil =>
          rw [List.map_singleton, all_cons, all_nil, both_free]
          exact itemWritten
      | cons other rest =>
          exact itemWritten.both
            (ih nofun fun other member => written other (List.mem_cons_of_mem item member))

theorem writtenAs_any {items : List α} (notEmpty : items ≠ [])
    (constrain : ∀ item ∈ items, (meaningOf item).constrains)
    (written : ∀ item ∈ items, (meaningOf item).WrittenAs (fragmentsOf item)) :
    (any (items.map meaningOf)).WrittenAsAlternatives
      (separated " OR " (items.map fragmentsOf)) := by
  induction items with
  | nil => exact absurd rfl notEmpty
  | cons item rest ih =>
      have itemWritten := written item List.mem_cons_self
      have itemConstrains := constrain item List.mem_cons_self
      cases rest with
      | nil =>
          rw [List.map_singleton, any_cons, any_nil, either_never itemConstrains]
          exact itemWritten.alternatives
      | cons other rest =>
          have restConstrain := fun other member =>
            constrain other (List.mem_cons_of_mem item member)
          have restWritten := fun other member =>
            written other (List.mem_cons_of_mem item member)
          exact itemWritten.alternatives.either itemConstrains (constrains_any restConstrain)
            (ih nofun restConstrain restWritten)

end Meaning

namespace Predicate

variable (dialect : Dialect)

/-- A well-formed predicate is read with its meaning wherever a condition can stand. -/
theorem WellFormed.writtenAs {predicate : Predicate} (wellFormed : predicate.WellFormed) :
    (predicate.meaning dialect).WrittenAs (predicate.fragments dialect) := by
  induction wellFormed with
  | condition single wellFormed =>
      refine ⟨single.bound_fragments dialect, fun next => Reads.of_atom ?_⟩
      intro outer level rest
      exact Condition.parse_fragments dialect wellFormed next rest
  | every parts notEmpty wellFormed ih =>
      rw [meaning, fragments, partMeanings_eq_map, partsFragments_eq_map]
      exact Meaning.writtenAs_all notEmpty ih
  | group connective elements notEmpty partsNotEmpty wellFormed ih =>
      rw [meaning, fragments, elementMeanings_eq_map, elementsFragments_eq_map]
      have written : ∀ element ∈ elements,
          (Meaning.all (element.map (meaning dialect))).WrittenAs
            (parenthesized (conjunction (element.map (fragments dialect)))) := fun element member =>
        (Meaning.writtenAs_all (partsNotEmpty element member) (ih element member)).alternatives
          |>.parenthesized
      cases connective with
      | conjunction => exact (Meaning.writtenAs_all notEmpty written).alternatives.parenthesized
      | disjunction =>
          refine (Meaning.writtenAs_any notEmpty (fun element member => ?_) written).parenthesized
          exact Meaning.constrains_all (partsNotEmpty element member) fun part isPart =>
            (wellFormed element member part isPart).constrains dialect

end Predicate

end QuerySql
