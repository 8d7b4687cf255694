import QuerySql.Proofs.Predicate.View

/-!
Veils.  Under a change of the values in criteria that no one can see in fragments, criteria expand
into predicates that look the same, or fail in the same way.
-/

namespace QuerySql

open Sql Sql.Fragment

namespace Filter

mutual

def mapped (change : Value → Value) : Filter → Filter
  | .value scalar => .value (change scalar)
  | .list items => .list (mappedItems change items)
  | .object entries => .object (mappedEntries change entries)
termination_by structural filter => filter

def mappedItems (change : Value → Value) : List Filter → List Filter
  | [] => []
  | item :: rest => item.mapped change :: mappedItems change rest
termination_by structural items => items

def mappedEntries (change : Value → Value) : List (String × Filter) → List (String × Filter)
  | [] => []
  | (key, filter) :: rest => (key, filter.mapped change) :: mappedEntries change rest
termination_by structural entries => entries

end

variable (change : Value → Value)

theorem isObject_mapped (filter : Filter) : (filter.mapped change).isObject = filter.isObject := by
  cases filter <;> rfl

theorem isEmpty_mappedItems (items : List Filter) :
    (mappedItems change items).isEmpty = items.isEmpty := by
  cases items <;> rfl

theorem mappedEntries_eq_map (entries : Criteria) :
    mappedEntries change entries = entries.map fun entry => (entry.1, entry.2.mapped change) := by
  induction entries with
  | nil => rfl
  | cons entry rest ih => rw [mappedEntries, ih, List.map_cons]

theorem shape_value (value : Value) :
    (Filter.value value).shape = if value.isNull then .null else .scalar := by
  cases value <;> rfl

end Filter

/-- A change of values together with a view of fragments that does not show it.  Null stays null and
text stays text, since that decides which conditions there are. -/
structure Veil where
  change : Value → Value
  view : Fragment → Fragment
  isNull_change : ∀ value, (change value).isNull = value.isNull
  isString_change : ∀ value, (change value).isString = value.isString
  view_fixed : ∀ text, view (.fixed text) = .fixed text
  view_operand : ∀ folded value,
    view (operandFragment folded (change value)) = view (operandFragment folded value)
  view_pattern : ∀ kind text text', view (.pattern kind text) = view (.pattern kind text')

namespace Veil

variable (veil : Veil) (dialect : Dialect)

theorem view_separated (separator : String) (parts : List (List Fragment)) :
    (separated separator parts).map veil.view =
      separated separator (parts.map (List.map veil.view)) := by
  induction parts with
  | nil => rfl
  | cons part rest ih =>
      cases rest with
      | nil => rfl
      | cons next rest =>
          rw [List.map_cons] at ih
          rw [separated, List.map_append, List.map_cons, ih, veil.view_fixed]
          rfl

theorem view_compare (column : Column) (relation : Relation) (value : Value) :
    ((Condition.compare column relation (veil.change value)).fragments dialect).map veil.view =
      ((Condition.compare column relation value).fragments dialect).map veil.view := by
  simp only [Condition.fragments, veil.isString_change, List.map_append, List.map_cons,
    veil.view_operand]

theorem any_isString_change (values : List Value) :
    (values.map veil.change).any Value.isString = values.any Value.isString := by
  simp only [List.any_map, Function.comp_def, veil.isString_change]

theorem view_member (column : Column) (negated : Bool) (values : List Value) :
    ((Condition.member column negated (values.map veil.change)).fragments dialect).map veil.view =
      ((Condition.member column negated values).fragments dialect).map veil.view := by
  simp only [Condition.fragments, veil.any_isString_change, List.map_append, List.map_cons,
    view_separated, List.map_map, Function.comp_def, veil.view_operand]

theorem view_textMatch (column : Column) (kind : TextMatch) (text text' : String) :
    ((Condition.textMatch column kind text).fragments dialect).map veil.view =
      ((Condition.textMatch column kind text').fragments dialect).map veil.view := by
  have samePattern (folded : Bool) :=
    veil.view_pattern kind (if folded then Text.lower text else text)
      (if folded then Text.lower text' else text')
  simp only [Condition.fragments, List.map_append, List.map_cons, samePattern]

def outline (predicate : Predicate) : List Fragment :=
  (predicate.fragments dialect).map veil.view

theorem view_conjunction (parts : List Predicate) :
    (Predicate.conjunction (parts.map (Predicate.fragments dialect))).map veil.view =
      Predicate.conjunction (parts.map (veil.outline dialect)) := by
  rw [Predicate.conjunction, view_separated, List.map_map]
  rfl

theorem view_parenthesized (fragments : List Fragment) :
    (Predicate.parenthesized fragments).map veil.view =
      Predicate.parenthesized (fragments.map veil.view) := by
  rw [Predicate.parenthesized, List.map_append, List.map_cons, List.map_singleton, veil.view_fixed,
    veil.view_fixed, Predicate.parenthesized]

theorem outline_every (parts : List Predicate) :
    veil.outline dialect (.every parts) =
      Predicate.conjunction (parts.map (veil.outline dialect)) := by
  rw [outline, Predicate.fragments, Predicate.partsFragments_eq_map, view_conjunction]

theorem outline_group (connective : Connective) (elements : List (List Predicate)) :
    veil.outline dialect (.group connective elements) =
      Predicate.parenthesized (separated connective.joiner
        (elements.map fun element =>
          Predicate.parenthesized
            (Predicate.conjunction (element.map (veil.outline dialect))))) := by
  rw [outline, Predicate.fragments, Predicate.elementsFragments_eq_map, view_parenthesized,
    view_separated, List.map_map]
  simp only [Function.comp_def, view_parenthesized, view_conjunction]

theorem compositional_outline : Predicate.Compositional (veil.outline dialect) where
  every same := by
    rw [outline_every, outline_every, same]
  group connective elements elements' same := by
    have sameParts := congrArg
      (List.map fun element => Predicate.parenthesized (Predicate.conjunction element)) same
    rw [List.map_map, List.map_map] at sameParts
    rw [outline_group, outline_group]
    exact congrArg (fun parts => Predicate.parenthesized (separated _ parts)) sameParts

end Veil

namespace Scope

open QuerySql.Filter

variable (veil : Veil) (dialect : Dialect) {scope : Scope} {key : String}

theorem shape_mapped (value : Value) :
    (Filter.value (veil.change value)).shape = (Filter.value value).shape := by
  rw [shape_value, shape_value, veil.isNull_change]

theorem outline_equality (value : Value) :
    veil.outline dialect (scope.equality key (veil.change value)) =
      veil.outline dialect (scope.equality key value) := by
  rw [equality, equality, veil.isNull_change]
  split
  · rfl
  · exact veil.view_compare dialect _ .equal value

theorem listValues_mapped (change : Value → Value) (items : List Filter) :
    listValues key (mappedItems change items) = (listValues key items).map (List.map change) := by
  induction items with
  | nil => rfl
  | cons item rest ih =>
      cases item with
      | value value =>
          rw [mappedItems, mapped, listValues, listValues, ih]
          cases listValues key rest <;> rfl
      | list items => rfl
      | object entries => rfl

theorem outline_membership (negated : Bool) (items : List Filter) :
    (scope.membership key negated (mappedItems veil.change items)).map (veil.outline dialect) =
      (scope.membership key negated items).map (veil.outline dialect) := by
  rw [membership, membership, listValues_mapped]
  cases listValues key items with
  | error error => rfl
  | ok values =>
      refine congrArg Except.ok ?_
      simp only [List.isEmpty_map]
      split
      · rfl
      · exact veil.view_member dialect _ negated values

theorem outline_textMatch (spelling : String) (kind : TextMatch) (value : Value) :
    (scope.textMatch key spelling kind (veil.change value)).map (veil.outline dialect) =
      (scope.textMatch key spelling kind value).map (veil.outline dialect) := by
  rw [textMatch, textMatch, veil.isNull_change]
  split
  · rfl
  · exact congrArg Except.ok (veil.view_textMatch dialect _ kind _ _)

theorem outline_operation (spelling : String) (operator : Operator) (operand : Filter) :
    (scope.operation key spelling operator (operand.mapped veil.change)).map
        (veil.outline dialect) =
      (scope.operation key spelling operator operand).map (veil.outline dialect) := by
  cases operand with
  | value value =>
      cases operator with
      | compare comparison =>
          exact congrArg Except.ok (veil.view_compare dialect _ (.order comparison) value)
      | not =>
          rw [mapped, operation, operation, veil.isNull_change]
          split
          · rfl
          · exact congrArg Except.ok (veil.view_compare dialect _ .notEqual value)
      | textMatch kind => exact outline_textMatch veil dialect spelling kind value
  | list items =>
      rw [mapped, operation, operation]
      split
      · exact outline_membership veil dialect true items
      · rfl
  | object entries => rfl

theorem outline_operations (entries : Criteria) :
    (scope.operations key (mappedEntries veil.change entries)).map
        (List.map (veil.outline dialect)) =
      (scope.operations key entries).map (List.map (veil.outline dialect)) := by
  induction entries with
  | nil => rfl
  | cons entry rest ih =>
      obtain ⟨spelling, operand⟩ := entry
      rw [mappedEntries, operations, operations]
      split
      · rfl
      · rename_i operator _
        apply map_bind_congr (outline_operation veil dialect spelling operator operand)
        intro predicate predicate' samePredicate
        apply map_map_congr ih
        intro others others' sameOthers
        rw [List.map_cons, List.map_cons, samePredicate, sameOthers]

theorem outline_patterns (entries : Criteria) :
    (scope.patterns (mappedEntries veil.change entries)).map (List.map (veil.outline dialect)) =
      (scope.patterns entries).map (List.map (veil.outline dialect)) := by
  induction entries with
  | nil => rfl
  | cons entry rest ih =>
      obtain ⟨key, pattern⟩ := entry
      cases pattern with
      | value value =>
          rw [mappedEntries, mapped, patterns, patterns]
          apply map_bind_congr (outline_textMatch veil dialect "like" .like value)
          intro predicate predicate' samePredicate
          apply map_map_congr ih
          intro others others' sameOthers
          rw [List.map_cons, List.map_cons, samePredicate, sameOthers]
      | list items => rfl
      | object entries => rfl

theorem associated_mapped (change : Value → Value) (entries : Criteria) :
    scope.associated key (mappedEntries change entries) = scope.associated key entries := by
  refine associated_congr ?_
  simp only [mappedEntries_eq_map, List.map_map, Function.comp_def, isObject_mapped]

mutual

theorem outline_mapped_expandAll (scope : Scope) (criteria : List (String × Filter)) :
    (scope.expandAll (mappedEntries veil.change criteria)).map (List.map (veil.outline dialect)) =
      (scope.expandAll criteria).map (List.map (veil.outline dialect)) := by
  cases criteria with
  | nil => rfl
  | cons entry rest =>
      obtain ⟨key, filter⟩ := entry
      rw [mappedEntries, expandAll, expandAll]
      apply map_bind_congr (outline_mapped_expand scope key filter)
      intro predicate predicate' same
      apply map_map_congr (outline_mapped_expandAll scope rest)
      intro others others' sameOthers
      exact map_toList_append_congr same sameOthers
termination_by structural criteria

theorem outline_mapped_expand (scope : Scope) (key : String) (filter : Filter) :
    (scope.expand key (filter.mapped veil.change)).map (Option.map (veil.outline dialect)) =
      (scope.expand key filter).map (Option.map (veil.outline dialect)) := by
  cases filter with
  | value value =>
      rw [mapped, expand, expand, shape_mapped]
      cases CriteriaKey.ofText key with
      | group connective => rfl
      | patterns => rfl
      | column key =>
          exact congrArg (fun part => Except.ok (some part)) (outline_equality veil dialect value)
  | list items =>
      rw [mapped, expand, expand, isEmpty_mappedItems]
      cases CriteriaKey.ofText key with
      | group connective =>
          dsimp only
          split
          · rfl
          · apply map_map_congr (outline_mapped_expandElements scope connective items)
            intro elements elements' same
            exact (veil.compositional_outline dialect).grouped same
      | patterns => rfl
      | column key =>
          apply map_map_congr (outline_membership veil dialect false items)
          intro predicate predicate' same
          exact congrArg some same
  | object entries =>
      rw [mapped, expand, expand]
      cases CriteriaKey.ofText key with
      | group connective => rfl
      | patterns =>
          apply map_map_congr (outline_patterns veil dialect entries)
          intro predicates predicates' same
          exact (veil.compositional_outline dialect).every? same
      | column key =>
          dsimp only
          rw [associated_mapped]
          cases scope.associated key entries with
          | error error => rfl
          | ok related =>
              cases related with
              | some table =>
                  apply map_map_congr (outline_mapped_expandAll (scope.enter key table) entries)
                  intro predicates predicates' same
                  exact (veil.compositional_outline dialect).every? same
              | none =>
                  apply map_map_congr (outline_operations veil dialect entries)
                  intro predicates predicates' same
                  exact (veil.compositional_outline dialect).every? same
termination_by structural filter

theorem outline_mapped_expandElements (scope : Scope) (connective : Connective)
    (items : List Filter) :
    (scope.expandElements connective (mappedItems veil.change items)).map
        (Option.map (List.map (List.map (veil.outline dialect)))) =
      (scope.expandElements connective items).map
        (Option.map (List.map (List.map (veil.outline dialect)))) := by
  cases items with
  | nil => rfl
  | cons item rest =>
      cases item with
      | value value =>
          rw [mappedItems, mapped, expandElements, expandElements, shape_mapped]
      | list items => rfl
      | object entries =>
          rw [mappedItems, mapped, expandElements, expandElements]
          apply map_bind_congr (outline_mapped_expandAll scope entries)
          intro parts parts' same
          rw [isEmpty_eq_of_map_eq same]
          split
          · split
            · rfl
            · exact outline_mapped_expandElements scope connective rest
          · apply map_map_congr (outline_mapped_expandElements scope connective rest)
            intro elements elements' sameElements
            rw [Predicate.map_view_cons, Predicate.map_view_cons, same, sameElements]
termination_by structural items

end

end Scope

end QuerySql
