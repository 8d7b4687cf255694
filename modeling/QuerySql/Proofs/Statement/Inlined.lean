import QuerySql.Proofs.Predicate.Wildcards
import QuerySql.Proofs.Statement.Clauses

namespace QuerySql

open Sql Sql.Fragment

/-! Whether values are bound takes no part in which fragments a condition is written with. -/

namespace Predicate

variable {dialect dialect' : Dialect}

theorem condition_fragments_congr (same : dialect.foldsCase = dialect'.foldsCase)
    (single : Condition) : single.fragments dialect = single.fragments dialect' := by
  have sameFolded (column : Column) (comparesText : Bool) :
      column.isFolded dialect comparesText = column.isFolded dialect' comparesText := by
    rw [Column.isFolded, Column.isFolded, same]
  cases single <;> simp only [Condition.fragments, sameFolded, same]

mutual

theorem fragments_congr (same : dialect.foldsCase = dialect'.foldsCase) (predicate : Predicate) :
    predicate.fragments dialect = predicate.fragments dialect' := by
  cases predicate with
  | condition single => exact condition_fragments_congr same single
  | every parts => rw [fragments, fragments, partsFragments_congr same parts]
  | group connective elements => rw [fragments, fragments, elementsFragments_congr same elements]
termination_by structural predicate

theorem partsFragments_congr (same : dialect.foldsCase = dialect'.foldsCase)
    (parts : List Predicate) : partsFragments dialect parts = partsFragments dialect' parts := by
  cases parts with
  | nil => rfl
  | cons part rest =>
      rw [partsFragments, partsFragments, fragments_congr same part, partsFragments_congr same rest]
termination_by structural parts

theorem elementsFragments_congr (same : dialect.foldsCase = dialect'.foldsCase)
    (elements : List (List Predicate)) :
    elementsFragments dialect elements = elementsFragments dialect' elements := by
  cases elements with
  | nil => rfl
  | cons element rest =>
      rw [elementsFragments, elementsFragments, partsFragments_congr same element,
        elementsFragments_congr same rest]
termination_by structural elements

end

end Predicate

def Sql.Fragment.matchKind? : Fragment → Option TextMatch
  | .pattern kind _ => some kind
  | _ => none

theorem Condition.matchKinds_fragments (dialect : Dialect) (condition : Condition)
    (wildcards : condition.takesLiterally = false) :
    ∀ kind ∈ (condition.fragments dialect).filterMap matchKind?, kind = .like := by
  have sees : SeesThrough (List.filterMap matchKind?) := .filterMap fun _ => rfl
  intro kind member
  rw [sees.condition] at member
  rcases List.mem_append.mp member with inColumn | inInputs
  · obtain ⟨column, _, inColumn⟩ := List.mem_flatMap.mp inColumn
    cases inColumn
  · obtain ⟨input, isInput, isKind⟩ := List.mem_flatMap.mp inInputs
    rcases mem_inputs isInput with ⟨value, rfl⟩ | ⟨column, other, text, written, rfl, rfl⟩
    · cases isKind
    · obtain rfl := List.mem_singleton.mp isKind
      cases kind with
      | like => rfl
      | contains => cases wildcards
      | startsWith => cases wildcards
      | endsWith => cases wildcards

theorem Scope.matchKinds_conjunction (dialect : Dialect) {scope : Scope} {criteria : Criteria}
    {predicates : List Predicate} (expanded : scope.expandAll criteria = .ok predicates)
    (wildcards : Filter.anyLiteral criteria = false) (kind : TextMatch) (text : String)
    (member : .pattern kind text ∈
      Predicate.conjunction (predicates.map (Predicate.fragments dialect))) : kind = .like := by
  have sees : SeesThrough (List.filterMap matchKind?) := .filterMap fun _ => rfl
  have isKind : kind ∈
      (Predicate.conjunction (predicates.map (Predicate.fragments dialect))).filterMap matchKind? :=
    List.mem_filterMap.mpr ⟨_, member, rfl⟩
  rw [sees.conjunction, List.flatMap_map] at isKind
  obtain ⟨predicate, inPredicates, isKind⟩ := List.mem_flatMap.mp isKind
  rw [sees.fragments] at isKind
  obtain ⟨condition, isLeaf, isKind⟩ := List.mem_flatMap.mp isKind
  have isAsked := (leaves_expandAll scope criteria predicates expanded).subset
    (List.mem_flatMap.mpr ⟨predicate, inPredicates, isLeaf⟩)
  obtain ⟨leaf, inCriteria, rfl⟩ := List.mem_map.mp isAsked
  exact leaf.condition.matchKinds_fragments dialect
    (takesLiterally_leaves scope criteria wildcards leaf inCriteria) kind isKind

namespace Conditions

variable (dialect dialect' : Dialect)

theorem conjunction_congr {dialect dialect' : Dialect}
    (same : dialect.foldsCase = dialect'.foldsCase) (conditions : Conditions) :
    conditions.conjunction dialect = conditions.conjunction dialect' := by
  have sameFragments : Predicate.fragments dialect = Predicate.fragments dialect' :=
    funext fun predicate => Predicate.fragments_congr same predicate
  rw [conjunction, conjunction, sameFragments]

theorem tail_write_congr (sameQuote : dialect.quote = dialect'.quote) (conditions : Conditions) :
    (conditions.write dialect).tail = (conditions.write dialect').tail := by
  have written : (emitAll dialect {} conditions.tail.fragments).1 =
      text dialect' conditions.tail.fragments := by
    rw [emitAll_of_bound_eq_nil sameQuote conditions.tail.bound_fragments]
  exact written

/-- The text of conditions with gaps for their values. -/
def gapped? (dialect : Dialect) (conditions : Conditions) : Option Gapped :=
  if conditions.predicates.isEmpty then none
  else some (.ofFragments dialect.quote (conditions.conjunction dialect))

theorem gapped?_congr (sameQuote : dialect.quote = dialect'.quote)
    (same : dialect.foldsCase = dialect'.foldsCase) (conditions : Conditions) :
    conditions.gapped? dialect = conditions.gapped? dialect' := by
  rw [gapped?, gapped?, conjunction_congr same, sameQuote]

theorem write_bound (parameterized : dialect.parameterized) (conditions : Conditions) :
    (conditions.write dialect).predicate? = (conditions.gapped? dialect).map Gapped.numbered ∧
      (conditions.write dialect).values =
        ((conditions.gapped? dialect).map Gapped.values).getD [] := by
  obtain ⟨predicate, values⟩ := conditions.write_eq dialect
  rw [predicate, values, Sql.Fragment.emitAll_bound parameterized, gapped?]
  split
  · rename_i isEmpty
    refine ⟨rfl, ?_⟩
    rw [conjunction, List.isEmpty_iff.mp isEmpty]
    rfl
  · rw [Option.map_some, Option.map_some, Gapped.emitAll_bound parameterized,
      Gapped.values_ofFragments]
    exact ⟨rfl, rfl⟩

theorem write_inlined (inline : dialect.parameterized = false) (conditions : Conditions)
    (wildcards : ∀ kind text, .pattern kind text ∈ conditions.conjunction dialect →
      kind = .like) :
    (conditions.write dialect).predicate? = (conditions.gapped? dialect).map Gapped.inlined ∧
      (conditions.write dialect).values = [] := by
  obtain ⟨predicate, values⟩ := conditions.write_eq dialect
  rw [predicate, values, Gapped.emitAll_inlined inline {} wildcards 1, gapped?]
  split <;> exact ⟨rfl, rfl⟩

end Conditions

namespace Statement

variable {schema : Schema} {name : String} {query : Query}

/-- Criteria without a match that takes its operand literally are compiled to one text with gaps,
whether or not values are bound: placeholders fill the gaps if they are, and the literals of the
same values otherwise. -/
theorem inlined_conditions (dialect : Dialect)
    (wildcards : Filter.anyLiteral query.criteria = false) :
    (∃ error, conditions schema { dialect with parameterized := true } name query = .error error ∧
        conditions schema { dialect with parameterized := false } name query = .error error) ∨
      ∃ bound inlined, ∃ predicate : Option Gapped,
        conditions schema { dialect with parameterized := true } name query = .ok bound ∧
        conditions schema { dialect with parameterized := false } name query = .ok inlined ∧
        bound.predicate? = predicate.map Gapped.numbered ∧
        bound.values = (predicate.map Gapped.values).getD [] ∧
        inlined.predicate? = predicate.map Gapped.inlined ∧ inlined.values = [] ∧
        bound.predicates.length = inlined.predicates.length ∧ bound.tail = inlined.tail := by
  cases required : schema.require name with
  | error error =>
      refine .inl ⟨error, ?_, ?_⟩ <;> rw [conditions, required] <;> rfl
  | ok table =>
      cases compiled : Conditions.of schema table query with
      | error error =>
          refine .inl ⟨error, ?_, ?_⟩ <;> rw [conditions, required] <;>
            exact congrArg (Except.map _) compiled
      | ok parts =>
          obtain ⟨predicates, expanded, rfl⟩ := exists_of_map_eq_ok compiled
          let parts : Conditions := { predicates, tail := Tail.of table query }
          let binding : Dialect := { dialect with parameterized := true }
          let inlining : Dialect := { dialect with parameterized := false }
          have written (dialect : Dialect) :
              conditions schema dialect name query = .ok (parts.write dialect) := by
            rw [conditions, required]
            exact congrArg (Except.map _) compiled
          obtain ⟨numbered, values⟩ := parts.write_bound binding rfl
          obtain ⟨inlined, noValues⟩ :=
            parts.write_inlined inlining rfl
              (Scope.matchKinds_conjunction _ expanded wildcards)
          have sameGaps : parts.gapped? inlining = parts.gapped? binding :=
            parts.gapped?_congr inlining binding rfl rfl
          rw [sameGaps] at inlined
          have sameLength : (parts.write binding).predicates.length =
              (parts.write inlining).predicates.length := by
            rw [Conditions.length_write, Conditions.length_write]
          have sameTail : (parts.write binding).tail = (parts.write inlining).tail :=
            parts.tail_write_congr binding inlining rfl
          exact .inr ⟨_, _, _, written binding, written inlining, numbered, values, inlined,
            noValues, sameLength, sameTail⟩

def wildcardQuery : Query where
  filter := some [
    ("like", .object [("name", .value (.string "A%_\"\\"))]),
    ("and", .list [
      .object [("or", .list [.object [("id", .value (.int 3))], .object []])],
      .object [("team", .object [("label", .value (.string "Core'"))])]]),
    ("id", .object [("not", .list [.value (.bytes [0xAB]), .value (.string "x")])])]
  skip := some 2

theorem inlined_conditions_sample :
    Filter.anyLiteral wildcardQuery.criteria = false ∧
      ∃ bound inlined gapped,
        conditions sampleSchema { Dialect.mysql with parameterized := true } "user" wildcardQuery =
          .ok bound ∧
        conditions sampleSchema { Dialect.mysql with parameterized := false } "user"
          wildcardQuery = .ok inlined ∧
        bound.predicate? = some (Gapped.numbered gapped) ∧ bound.values = gapped.values ∧
        gapped.values.length = 4 ∧ inlined.predicate? = some (Gapped.inlined gapped) ∧
        inlined.values = [] ∧ bound.tail = inlined.tail := by
  have wildcards : Filter.anyLiteral wildcardQuery.criteria = false := by decide
  have counted : (conditions sampleSchema { Dialect.mysql with parameterized := true } "user"
      wildcardQuery).map (fun written => (written.values.length, written.predicate?.isSome)) =
        .ok (4, true) := by decide
  refine ⟨wildcards, ?_⟩
  obtain ⟨written, compiled, isCount⟩ := exists_of_map_eq_ok counted
  obtain ⟨count, isSome⟩ := Prod.mk.inj isCount
  rcases @inlined_conditions sampleSchema "user" wildcardQuery Dialect.mysql wildcards with
    ⟨error, fails, _⟩ |
      ⟨bound, inlined, predicate, isBound, isInlined, numbered, values, literals, noValues, _, tail⟩
  · rw [compiled] at fails
    cases fails
  · rw [compiled] at isBound
    cases isBound
    cases predicate with
    | none =>
        rw [numbered] at isSome
        cases isSome
    | some gapped =>
        rw [values] at count
        exact ⟨written, inlined, gapped, compiled, isInlined, numbered, values, count, literals,
          noValues, tail⟩

end Statement

end QuerySql
