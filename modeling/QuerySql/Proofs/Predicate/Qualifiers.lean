import QuerySql.Proofs.Predicate.Leaves

namespace QuerySql

open Sql Sql.Fragment

theorem Condition.qualifiers_fragments (dialect : Dialect) (condition : Condition) :
    qualifiers (condition.fragments dialect) =
      (condition.column?.map fun column => column.ref.qualifier).toList := by
  have noneInInputs :
      (condition.inputs dialect).flatMap (fun input => qualifiers [input]) = [] := by
    refine List.flatMap_eq_nil_iff.mpr fun input member => ?_
    rcases mem_inputs member with ⟨value, rfl⟩ | ⟨_, _, _, _, _, rfl⟩ <;> rfl
  rw [sees_qualifiers.condition, noneInInputs, List.append_nil]
  cases condition.column? <;> simp

theorem Predicate.qualifiers_fragments (dialect : Dialect) (predicate : Predicate) :
    qualifiers (predicate.fragments dialect) =
      (predicate.leaves.filterMap Condition.column?).map fun column => column.ref.qualifier := by
  rw [sees_qualifiers.fragments dialect predicate, List.map_filterMap,
    List.filterMap_eq_flatMap_toList]
  simp only [Condition.qualifiers_fragments]

namespace Scope

variable {scope : Scope} {key : String}

/-- What columns are referred to by inside of association filters. -/
def qualifierAt (scope : Scope) (path : List String) : String :=
  (path.getLast?.map scope.associationQualifier).getD scope.qualifier

theorem qualifierAt_cons (scope : Scope) (key : String) (table : Table) (path : List String) :
    scope.qualifierAt (key :: path) = (scope.enter key table).qualifierAt path := by
  cases path with
  | nil => rfl
  | cons next rest => rw [qualifierAt, List.getLast?_cons_cons]; rfl

theorem column_equality {column other : Column} {negated : Bool} {value : Value}
    (isColumn : other ∈ (column.equality negated value).column?) : other = column := by
  rw [Column.equality] at isColumn
  split at isColumn <;> exact (Option.some.inj isColumn).symm

theorem column_membership {column other : Column} {negated : Bool} {items : List Filter}
    (isColumn : other ∈ (column.membership negated items).column?) : other = column := by
  rw [Column.membership] at isColumn
  split at isColumn
  · cases isColumn
  · exact (Option.some.inj isColumn).symm

theorem column_operation {column other : Column} {operator : Operator} {operand : Filter}
    {single : Condition} (asked : column.operation? operator operand = some single)
    (isColumn : other ∈ single.column?) : other = column := by
  cases operand with
  | value value =>
      cases operator with
      | compare comparison =>
          cases asked
          exact (Option.some.inj isColumn).symm
      | not =>
          cases asked
          exact column_equality isColumn
      | textMatch kind =>
          cases asked
          exact (Option.some.inj isColumn).symm
  | list items =>
      cases operator with
      | compare comparison => cases asked
      | not =>
          cases asked
          exact column_membership isColumn
      | textMatch kind => cases asked
  | object entries => cases operator <;> cases asked

/-- The condition is on a column of the scope, or of an association's table inside of a filter on
it. -/
def Qualifies (scope : Scope) (leaf : Leaf) : Prop :=
  ∀ column ∈ leaf.condition.column?, column.ref.qualifier = scope.qualifierAt leaf.path

theorem qualifies_own {condition : Condition}
    (onColumn : ∀ column ∈ condition.column?, column = scope.column key) :
    scope.Qualifies (.own condition) := by
  intro column isColumn
  rw [onColumn column isColumn, column_qualifier]
  rfl

theorem qualifies_patternLeaf? {entry : String × Filter} {leaf : Leaf}
    (isLeaf : scope.patternLeaf? entry = some leaf) : scope.Qualifies leaf := by
  obtain ⟨single, asked, rfl⟩ := Option.map_eq_some_iff.mp isLeaf
  exact qualifies_own fun column => column_operation asked

theorem qualifies_operatorLeaf? {entry : String × Filter} {leaf : Leaf}
    (isLeaf : scope.operatorLeaf? key entry = some leaf) : scope.Qualifies leaf := by
  obtain ⟨single, asked, rfl⟩ := Option.map_eq_some_iff.mp isLeaf
  obtain ⟨operator, _, asked⟩ := Option.bind_eq_some_iff.mp asked
  exact qualifies_own fun column => column_operation asked

mutual

theorem qualifies_leaves (scope : Scope) (criteria : List (String × Filter)) :
    ∀ leaf ∈ scope.leaves criteria, scope.Qualifies leaf := by
  cases criteria with
  | nil => simp [leaves]
  | cons entry rest =>
      obtain ⟨key, filter⟩ := entry
      intro leaf member
      rcases List.mem_append.mp member with first | inRest
      · exact qualifies_leavesAt scope key filter leaf first
      · exact qualifies_leaves scope rest leaf inRest
termination_by structural criteria

theorem qualifies_leavesAt (scope : Scope) (key : String) (filter : Filter) :
    ∀ leaf ∈ scope.leavesAt key filter, scope.Qualifies leaf := by
  intro leaf member
  cases filter with
  | value value =>
      rw [leavesAt] at member
      cases kind : CriteriaKey.ofText key with
      | group connective => simp [kind] at member
      | patterns => simp [kind] at member
      | column key =>
          simp only [kind, List.mem_singleton] at member
          subst member
          exact qualifies_own fun column => column_equality
  | list items =>
      rw [leavesAt] at member
      cases kind : CriteriaKey.ofText key with
      | group connective =>
          simp only [kind] at member
          exact qualifies_elementLeaves scope items leaf member
      | patterns => simp [kind] at member
      | column key =>
          simp only [kind, List.mem_singleton] at member
          subst member
          exact qualifies_own fun column => column_membership
  | object entries =>
      rw [leavesAt] at member
      cases kind : CriteriaKey.ofText key with
      | group connective => simp [kind] at member
      | patterns =>
          simp only [kind] at member
          obtain ⟨entry, _, isLeaf⟩ := List.mem_filterMap.mp member
          exact qualifies_patternLeaf? isLeaf
      | column key =>
          simp only [kind] at member
          split at member
          · rename_i table _
            obtain ⟨inner, inEntries, rfl⟩ := List.mem_map.mp member
            intro column isColumn
            rw [Leaf.within, qualifierAt_cons scope key table]
            exact qualifies_leaves (scope.enter key table) entries inner inEntries column isColumn
          · obtain ⟨entry, _, isLeaf⟩ := List.mem_filterMap.mp member
            exact qualifies_operatorLeaf? isLeaf
termination_by structural filter

theorem qualifies_elementLeaves (scope : Scope) (items : List Filter) :
    ∀ leaf ∈ scope.elementLeaves items, scope.Qualifies leaf := by
  cases items with
  | nil => simp [elementLeaves]
  | cons item rest =>
      intro leaf member
      cases item with
      | value value => exact qualifies_elementLeaves scope rest leaf member
      | list items => exact qualifies_elementLeaves scope rest leaf member
      | object entries =>
          rcases List.mem_append.mp member with first | inRest
          · exact qualifies_leaves scope entries leaf first
          · exact qualifies_elementLeaves scope rest leaf inRest
termination_by structural items

end

end Scope

end QuerySql
