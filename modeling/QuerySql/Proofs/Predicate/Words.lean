import QuerySql.Proofs.Sql.Words

namespace QuerySql

open Sql Sql.Fragment

namespace Predicate

def words : List String :=
  ["(", ")", ",", ".", " AND ", " OR ", "LOWER(", "1=1", "1=0", " IS NULL", " IS NOT NULL",
    " IN (", " NOT IN (", " = ", " <> ", " < ", " <= ", " > ", " >= ", " LIKE ", " ILIKE "]

def plainWords : List String :=
  words.filter fun word => word ≠ "LOWER(" && word ≠ " ILIKE "

end Predicate

theorem Relation.mem_plainWords (relation : Relation) :
    " " ++ relation.sql ++ " " ∈ Predicate.plainWords := by
  cases relation with
  | equal => decide
  | notEqual => decide
  | order comparison => cases comparison <;> decide

/-- Whether a condition's column is folded, and what it is compared with. -/
def Condition.isFolded (dialect : Dialect) : Condition → Bool
  | .constant _ | .null _ _ => false
  | .compare column _ value => column.isFolded dialect value.isString
  | .member column _ values => column.isFolded dialect (values.any Value.isString)
  | .textMatch column _ _ => column.isFolded dialect true

theorem Condition.isFolded_eq_false {dialect : Dialect} (keepsCase : dialect.foldsCase = false)
    (condition : Condition) : condition.isFolded dialect = false := by
  cases condition <;> simp [Condition.isFolded, Column.isFolded, keepsCase]

section Words

variable {words : List String} (plain : Predicate.plainWords ⊆ words)

include plain

theorem Column.speak_fragments (column : Column) {folded : Bool}
    (lower : folded → "LOWER(" ∈ words) : Speak words (column.fragments folded) := by
  have ref : Speak words column.ref.fragments := .ref trivial (plain (by decide)) trivial
  cases folded with
  | false => exact ref
  | true => exact (ref.lead (lower rfl)).trail (plain (by decide))

theorem Condition.speak_fragments (dialect : Dialect) (condition : Condition)
    (lower : condition.isFolded dialect → "LOWER(" ∈ words)
    (ignoring : dialect.foldsCase → " ILIKE " ∈ words) :
    Speak words (condition.fragments dialect) := by
  cases condition with
  | constant holds =>
      refine Every.lead (plain ?_) .nil
      cases holds <;> decide
  | null column negated =>
      have unfolded : Speak words (column.fragments false) :=
        column.speak_fragments plain nofun
      refine unfolded.trail (plain ?_)
      cases negated <;> decide
  | compare column relation operand =>
      exact (column.speak_fragments plain lower).link (plain relation.mem_plainWords)
        (.cons trivial .nil)
  | member column negated operands =>
      have listed : Speak words (separated "," (operands.map fun operand =>
          [operandFragment (column.isFolded dialect (operands.any Value.isString)) operand])) := by
        refine Every.separated (plain (by decide)) fun part member => ?_
        obtain ⟨operand, -, rfl⟩ := List.mem_map.mp member
        exact .cons trivial .nil
      refine ((column.speak_fragments plain lower).link (plain ?_) listed).trail
        (plain (by decide))
      cases negated <;> decide
  | textMatch column kind text =>
      have comparator (folded : Bool) :
          " " ++ patternComparator folded dialect.foldsCase ++ " " ∈ words := by
        cases foldsCase : dialect.foldsCase with
        | false => cases folded <;> exact plain (by decide)
        | true =>
            cases folded with
            | false => exact ignoring foldsCase
            | true => exact plain (by decide)
      exact (column.speak_fragments plain lower).link (comparator _) (.cons trivial .nil)

end Words

namespace Predicate

section Every

variable {dialect : Dialect} {holds : Fragment → Prop}

theorem every_parenthesized (signs : ∀ word ∈ ["(", ")", " AND ", " OR "], holds (.fixed word))
    {fragments : List Fragment} (every : Every holds fragments) :
    Every holds (parenthesized fragments) :=
  (every.lead (signs "(" (by decide))).trail (signs ")" (by decide))

theorem every_conjunction (signs : ∀ word ∈ ["(", ")", " AND ", " OR "], holds (.fixed word))
    {parts : List (List Fragment)} (every : ∀ part ∈ parts, Every holds part) :
    Every holds (conjunction parts) :=
  Every.separated (signs " AND " (by decide)) every

mutual

/-- What holds of the fragments of every condition and of the signs between them holds of those of
every predicate. -/
theorem every_fragments (signs : ∀ word ∈ ["(", ")", " AND ", " OR "], holds (.fixed word))
    (conditions : ∀ single : Condition, Every holds (single.fragments dialect))
    (predicate : Predicate) : Every holds (predicate.fragments dialect) := by
  cases predicate with
  | condition single => exact conditions single
  | every parts => exact every_conjunction signs (every_partsFragments signs conditions parts)
  | group connective elements =>
      refine every_parenthesized signs
        (Every.separated ?_ (every_elementsFragments signs conditions elements))
      cases connective <;> exact signs _ (by decide)
termination_by structural predicate

theorem every_partsFragments (signs : ∀ word ∈ ["(", ")", " AND ", " OR "], holds (.fixed word))
    (conditions : ∀ single : Condition, Every holds (single.fragments dialect))
    (parts : List Predicate) : ∀ part ∈ partsFragments dialect parts, Every holds part := by
  cases parts with
  | nil => exact List.forall_mem_nil _
  | cons part rest =>
      exact List.forall_mem_cons.mpr
        ⟨every_fragments signs conditions part, every_partsFragments signs conditions rest⟩
termination_by structural parts

theorem every_elementsFragments
    (signs : ∀ word ∈ ["(", ")", " AND ", " OR "], holds (.fixed word))
    (conditions : ∀ single : Condition, Every holds (single.fragments dialect))
    (elements : List (List Predicate)) :
    ∀ element ∈ elementsFragments dialect elements, Every holds element := by
  cases elements with
  | nil => exact List.forall_mem_nil _
  | cons element rest =>
      exact List.forall_mem_cons.mpr
        ⟨every_parenthesized signs
            (every_conjunction signs (every_partsFragments signs conditions element)),
          every_elementsFragments signs conditions rest⟩
termination_by structural elements

end

end Every

variable (dialect : Dialect)

theorem speak_fragments (predicate : Predicate) : Speak words (predicate.fragments dialect) :=
  every_fragments (by decide) (fun single =>
    single.speak_fragments (List.filter_subset_self _) dialect (fun _ => by decide)
      fun _ => by decide) predicate

theorem speak_plain_fragments {dialect : Dialect} (keepsCase : dialect.foldsCase = false)
    (predicate : Predicate) : Speak plainWords (predicate.fragments dialect) := by
  refine every_fragments (by decide) (fun single => ?_) predicate
  refine single.speak_fragments (List.Subset.refl _) dialect (fun isFolded => ?_) fun folds => ?_
  · rw [single.isFolded_eq_false keepsCase] at isFolded
    cases isFolded
  · rw [keepsCase] at folds
    cases folds

end Predicate

end QuerySql
