import QuerySql.Predicate.Expansion
import QuerySql.Proofs.Outcome

namespace QuerySql

variable {β : Type}

namespace Predicate

structure Compositional (view : Predicate → β) : Prop where
  every : ∀ {parts parts' : List Predicate}, parts.map view = parts'.map view →
    view (.every parts) = view (.every parts')
  group : ∀ (connective : Connective) {elements elements' : List (List Predicate)},
    elements.map (List.map view) = elements'.map (List.map view) →
      view (.group connective elements) = view (.group connective elements')

theorem compositional_fragments (dialect : Dialect) : Compositional (fragments dialect) where
  every same := by
    rw [fragments, fragments, partsFragments_eq_map, partsFragments_eq_map, same]
  group connective elements elements' same := by
    have sameParts := congrArg (List.map fun element => parenthesized (conjunction element)) same
    rw [List.map_map, List.map_map] at sameParts
    rw [fragments, fragments, elementsFragments_eq_map, elementsFragments_eq_map]
    exact congrArg (fun parts => parenthesized (Sql.Fragment.separated _ parts)) sameParts

namespace Compositional

variable {view : Predicate → β} (compositional : Compositional view)

include compositional

theorem every? {parts parts' : List Predicate} (same : parts.map view = parts'.map view) :
    (Scope.every? parts).map view = (Scope.every? parts').map view := by
  rw [Scope.every?, Scope.every?, isEmpty_eq_of_map_eq same]
  split
  · rfl
  · rw [Option.map_some, Option.map_some, compositional.every same]

theorem grouped {connective : Connective} {elements elements' : Option (List (List Predicate))}
    (same : elements.map (List.map (List.map view)) = elements'.map (List.map (List.map view))) :
    (elements.bind fun elements =>
        if elements.isEmpty then none else some (Predicate.group connective elements)).map view =
      (elements'.bind fun elements =>
        if elements.isEmpty then none else some (.group connective elements)).map view := by
  cases elements with
  | none => cases elements' <;> simp at same ⊢
  | some elements =>
      cases elements' with
      | none => simp at same
      | some elements' =>
          rw [Option.map_some, Option.map_some, Option.some_inj] at same
          rw [Option.bind_some, Option.bind_some, isEmpty_eq_of_map_eq same]
          split
          · rfl
          · rw [Option.map_some, Option.map_some, compositional.group connective same]

end Compositional

theorem map_view_cons (view : Predicate → β) (element : List Predicate)
    (elements : Option (List (List Predicate))) :
    (elements.map (element :: ·)).map (List.map (List.map view)) =
      (elements.map (List.map (List.map view))).map (element.map view :: ·) := by
  cases elements <;> rfl

end Predicate

theorem Scope.associated_congr {scope : Scope} {key : String} {entries entries' : Criteria}
    (same : entries'.map (fun entry => (entry.1, entry.2.isObject)) =
      entries.map fun entry => (entry.1, entry.2.isObject)) :
    scope.associated key entries' = scope.associated key entries := by
  have sameKeys := congrArg (List.all · fun entry => Operator.isKey entry.1) same
  have sameOperator := congrArg
    (fun entries => (entries.find? fun entry => Operator.isKey entry.1 && !entry.2).map Prod.fst)
    same
  simp only [List.all_map, List.find?_map, Option.map_map, Function.comp_def]
    at sameKeys sameOperator
  rw [associated, associated, sameKeys]
  cases found : entries.find? fun entry => Operator.isKey entry.1 && !entry.2.isObject with
  | none =>
      rw [found] at sameOperator
      rw [Option.map_eq_none_iff.mp sameOperator]
  | some operator =>
      rw [found] at sameOperator
      obtain ⟨operator', found', sameKey⟩ := Option.map_eq_some_iff.mp sameOperator
      obtain ⟨spelling, operand⟩ := operator
      obtain ⟨spelling', operand'⟩ := operator'
      cases sameKey
      rw [found']

end QuerySql
