import QuerySql.Proofs.Predicate.Validity
import QuerySql.Proofs.Query.Reordered

namespace QuerySql

open QuerySql.Filter

theorem Filter.Reordered.value?_eq {filter filter' : Filter}
    (reordered : Reordered filter filter') : filter'.value? = filter.value? := by
  cases reordered <;> rfl

namespace Scope

variable {scope : Scope} {key : String}

theorem listValues_reordered {items items' : List Filter}
    (elements : List.Forall₂ Reordered items items') :
    listValues key items' = listValues key items := by
  induction elements with
  | nil => rfl
  | cons first _ ih =>
      cases first with
      | value value => rw [listValues, listValues, ih]
      | list elements => rfl
      | object inside => rfl

theorem operation_reordered {operand operand' : Filter} (reordered : Reordered operand operand')
    (spelling : String) (operator : Operator) :
    scope.operation key spelling operator operand' =
      scope.operation key spelling operator operand := by
  cases reordered with
  | value value => rfl
  | list elements =>
      rw [operation, operation, membership, membership, listValues_reordered elements]
  | object inside => rfl

theorem operations_reordered {entries entries' : Criteria}
    (reordered : Criteria.Reordered entries entries') :
    scope.operations key entries' = scope.operations key entries := by
  induction reordered with
  | nil => rfl
  | cons first _ ih =>
      cases first with
      | kept spelling inside =>
          simp only [operations, operation_reordered inside, ih]
      | shuffled isDisjunction elements order =>
          rw [operations, operations, Operator.ofKey?_eq_none_of_group isDisjunction]

theorem patterns_reordered {entries entries' : Criteria}
    (reordered : Criteria.Reordered entries entries') :
    scope.patterns entries' = scope.patterns entries := by
  induction reordered with
  | nil => rfl
  | cons first _ ih =>
      cases first with
      | kept key inside =>
          cases inside with
          | value value => rw [patterns, patterns, ih]
          | list elements => rfl
          | object inside => rfl
      | shuffled isDisjunction elements order => rfl

theorem find?_reordered {entries entries' : Criteria}
    (reordered : Criteria.Reordered entries entries') :
    (entries'.find? fun entry => Operator.isKey entry.1 && !entry.2.isObject).map Prod.fst =
      (entries.find? fun entry => Operator.isKey entry.1 && !entry.2.isObject).map Prod.fst := by
  induction reordered with
  | nil => rfl
  | cons first _ ih =>
      rw [List.find?_cons, List.find?_cons, first.key_eq, first.isObject_eq]
      split
      · exact congrArg some first.key_eq
      · exact ih

theorem all_isKey_reordered {entries entries' : Criteria}
    (reordered : Criteria.Reordered entries entries') :
    (entries'.all fun entry => Operator.isKey entry.1) =
      entries.all fun entry => Operator.isKey entry.1 := by
  induction reordered with
  | nil => rfl
  | cons first _ ih => rw [List.all_cons, List.all_cons, first.key_eq, ih]

theorem associated_reordered {entries entries' : Criteria}
    (reordered : Criteria.Reordered entries entries') :
    scope.associated key entries' = scope.associated key entries := by
  have sameOperator := find?_reordered reordered
  rw [associated, associated, all_isKey_reordered reordered]
  cases found : entries.find? fun entry => Operator.isKey entry.1 && !entry.2.isObject with
  | none =>
      rw [found, Option.map_none, Option.map_eq_none_iff] at sameOperator
      rw [sameOperator]
  | some entry =>
      rw [found, Option.map_some, Option.map_eq_some_iff] at sameOperator
      obtain ⟨entry', found', sameKey⟩ := sameOperator
      rw [found']
      dsimp only
      rw [sameKey]

end Scope

namespace Meaning

theorem constrains_all_eq (meanings : List Meaning) :
    (all meanings).constrains = (meanings.map constrains).any id := by
  induction meanings with
  | nil => rfl
  | cons meaning rest ih => rw [all_cons, constrains_both, ih, List.map_cons, List.any_cons, id]

theorem constrains_any_eq (meanings : List Meaning) :
    (any meanings).constrains = (meanings.map constrains).all id := by
  induction meanings with
  | nil => rfl
  | cons meaning rest ih => rw [any_cons, constrains_either, ih, List.map_cons, List.all_cons, id]

theorem constrains_combined_congr {meanings meanings' : List Meaning} (connective : Connective)
    (same : meanings'.map constrains = meanings.map constrains) :
    (combined connective meanings').constrains = (combined connective meanings).constrains := by
  cases connective with
  | conjunction =>
      show (all meanings').constrains = (all meanings).constrains
      rw [constrains_all_eq, constrains_all_eq, same]
  | disjunction =>
      show (any meanings').constrains = (any meanings).constrains
      rw [constrains_any_eq, constrains_any_eq, same]

end Meaning

namespace Scope

variable {dialect : Dialect}

def elementMeaning (dialect : Dialect) (scope : Scope) : Filter → Meaning
  | .object entries => scope.meaning dialect entries
  | _ => .free

theorem elementMeanings_cons (scope : Scope) (item : Filter) (rest : List Filter) :
    scope.elementMeanings dialect (item :: rest) =
      elementMeaning dialect scope item :: scope.elementMeanings dialect rest := by
  cases item <;> rfl

theorem elementMeanings_eq_map (scope : Scope) (items : List Filter) :
    scope.elementMeanings dialect items = items.map (elementMeaning dialect scope) := by
  induction items with
  | nil => rfl
  | cons item rest ih => rw [elementMeanings_cons, ih, List.map_cons]

theorem membership_reordered {column : Column} {negated : Bool} {items items' : List Filter}
    (elements : List.Forall₂ Reordered items items') :
    column.membership negated items' = column.membership negated items := by
  have sameValues : items'.filterMap Filter.value? = items.filterMap Filter.value? := by
    induction elements with
    | nil => rfl
    | cons first _ ih => rw [List.filterMap_cons, List.filterMap_cons, first.value?_eq, ih]
  rw [Column.membership, Column.membership, isEmpty_eq_of_forall₂ elements, sameValues]

theorem operatorMeaning_reordered {scope : Scope} {key : String} {entry entry' : String × Filter}
    (reordered : EntryReordered entry entry') :
    scope.operatorMeaning dialect key entry'.1 entry'.2 =
      scope.operatorMeaning dialect key entry.1 entry.2 := by
  cases reordered with
  | kept spelling inside =>
      have sameAsked (operator : Operator) (filter filter' : Filter)
          (reordered : Reordered filter filter') :
          (scope.column key).operation? operator filter' =
            (scope.column key).operation? operator filter := by
        cases reordered with
        | value value => rfl
        | list elements =>
            cases operator with
            | not => exact congrArg some (membership_reordered elements)
            | compare comparison => rfl
            | textMatch kind => rfl
        | object inside => cases operator <;> rfl
      simp only [operatorMeaning, sameAsked _ _ _ inside]
  | shuffled isDisjunction elements order =>
      rw [operatorMeaning, operatorMeaning, Operator.ofKey?_eq_none_of_group isDisjunction]
      rfl

theorem patternMeaning_reordered {scope : Scope} {entry entry' : String × Filter}
    (reordered : EntryReordered entry entry') :
    scope.patternMeaning dialect entry'.1 entry'.2 =
      scope.patternMeaning dialect entry.1 entry.2 := by
  cases reordered with
  | kept key inside => rw [patternMeaning, patternMeaning, inside.value?_eq]
  | shuffled isDisjunction elements order => rfl

mutual

theorem constrains_meaning (scope : Scope) (criteria : List (String × Filter))
    (criteria' : Criteria) (reordered : Criteria.Reordered criteria criteria') :
    (scope.meaning dialect criteria').constrains = (scope.meaning dialect criteria).constrains := by
  cases criteria with
  | nil =>
      cases reordered
      rfl
  | cons entry rest =>
      obtain ⟨key, filter⟩ := entry
      cases reordered with
      | @cons _ entry' _ rest' first others =>
          obtain ⟨key', filter'⟩ := entry'
          obtain rfl : key' = key := first.key_eq
          rw [meaning, meaning, Meaning.constrains_both, Meaning.constrains_both,
            constrains_meaningAt scope key' filter filter' first,
            constrains_meaning scope rest rest' others]
termination_by structural criteria

theorem constrains_meaningAt (scope : Scope) (key : String) (filter filter' : Filter)
    (reordered : EntryReordered (key, filter) (key, filter')) :
    (scope.meaningAt dialect key filter').constrains =
      (scope.meaningAt dialect key filter).constrains := by
  cases filter with
  | value value =>
      cases reordered with
      | kept _ inside =>
          cases inside
          rfl
  | list items =>
      cases reordered with
      | kept _ inside =>
          cases inside with
          | @list _ items' elements =>
              have same := constrains_elementMeanings scope items items' elements
              rw [meaningAt, meaningAt]
              cases CriteriaKey.ofText key with
              | group connective => exact Meaning.constrains_combined_congr connective same
              | patterns => rfl
              | column key => rfl
      | @shuffled _ _ items' items'' isDisjunction elements order =>
          have same := constrains_elementMeanings scope items items' elements
          have shuffled : (scope.elementMeanings dialect items').map Meaning.constrains |>.Perm
              ((scope.elementMeanings dialect items'').map Meaning.constrains) := by
            rw [elementMeanings_eq_map, elementMeanings_eq_map]
            exact (order.map _).map _
          rw [meaningAt, meaningAt, isDisjunction]
          dsimp only
          rw [Meaning.combined, Meaning.constrains_any_eq, Meaning.constrains_any_eq, ← same,
            shuffled.all_eq]
  | object entries =>
      cases reordered with
      | kept _ inside =>
          cases inside with
          | @object _ entries' inside =>
              rw [meaningAt, meaningAt]
              cases CriteriaKey.ofText key with
              | group connective => rfl
              | patterns =>
                  exact congrArg (Meaning.constrains ∘ Meaning.all)
                    (map_eq_of_forall₂ inside fun _ _ => patternMeaning_reordered)
              | column key =>
                  dsimp only
                  rw [associated_reordered inside]
                  cases scope.associated key entries with
                  | error error =>
                      exact congrArg (Meaning.constrains ∘ Meaning.all)
                        (map_eq_of_forall₂ inside fun _ _ => operatorMeaning_reordered)
                  | ok related =>
                      cases related with
                      | some table =>
                          exact constrains_meaning (scope.enter key table) entries entries' inside
                      | none =>
                          exact congrArg (Meaning.constrains ∘ Meaning.all)
                            (map_eq_of_forall₂ inside fun _ _ => operatorMeaning_reordered)
termination_by structural filter

theorem constrains_elementMeanings (scope : Scope) (items items' : List Filter)
    (elements : List.Forall₂ Reordered items items') :
    (scope.elementMeanings dialect items').map Meaning.constrains =
      (scope.elementMeanings dialect items).map Meaning.constrains := by
  cases items with
  | nil =>
      cases elements
      rfl
  | cons item rest =>
      cases elements with
      | @cons _ item' _ rest' first others =>
          rw [elementMeanings_cons, elementMeanings_cons, List.map_cons, List.map_cons,
            constrains_elementMeanings scope rest rest' others]
          cases item with
          | value value =>
              cases first
              rfl
          | list items =>
              cases first
              rfl
          | object entries =>
              cases first with
              | @object _ entries' inside =>
                  rw [elementMeaning, elementMeaning,
                    constrains_meaning scope entries entries' inside]
termination_by structural items

end

theorem constrains_reordered {scope : Scope} {criteria criteria' : Criteria}
    (reordered : Criteria.Reordered criteria criteria') :
    scope.constrains criteria' = scope.constrains criteria :=
  constrains_meaning scope criteria criteria' reordered

end Scope

end QuerySql
