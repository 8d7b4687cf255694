import QuerySql.Proofs.Predicate.Leaves

namespace QuerySql

open Sql

namespace Filter

def matchesLiterally : String × Filter → Bool
  | (spelling, .value _) =>
      match Operator.ofKey? spelling with
      | some (.textMatch kind) => kind.isLiteral
      | _ => false
  | _ => false

mutual

/-- Whether any operator of criteria is a match that takes its operand literally. -/
def anyLiteral : List (String × Filter) → Bool
  | [] => false
  | (key, filter) :: rest => literalAt key filter || anyLiteral rest
termination_by structural criteria => criteria

def literalAt (key : String) : Filter → Bool
  | .value _ => false
  | .list items => literalIn items
  | .object entries =>
      match CriteriaKey.ofText key with
      | .column _ => entries.any matchesLiterally || anyLiteral entries
      | .group _ | .patterns => false
termination_by structural filter => filter

def literalIn : List Filter → Bool
  | [] => false
  | .object entries :: rest => anyLiteral entries || literalIn rest
  | _ :: rest => literalIn rest
termination_by structural items => items

end

end Filter

def Condition.takesLiterally : Condition → Bool
  | .textMatch _ kind _ => kind.isLiteral
  | _ => false

namespace Scope

open QuerySql.Filter

variable {scope : Scope} {key : String}

theorem takesLiterally_patternLeaf? {entry : String × Filter} {leaf : Leaf}
    (isLeaf : scope.patternLeaf? entry = some leaf) : leaf.condition.takesLiterally = false := by
  obtain ⟨single, asked, rfl⟩ := Option.map_eq_some_iff.mp isLeaf
  obtain ⟨key, pattern⟩ := entry
  cases pattern with
  | value value =>
      cases asked
      rfl
  | list items => cases asked
  | object entries => cases asked

theorem takesLiterally_equality (column : Column) (negated : Bool) (value : Value) :
    (column.equality negated value).takesLiterally = false := by
  rw [Column.equality]
  split <;> rfl

theorem takesLiterally_membership (column : Column) (negated : Bool) (items : List Filter) :
    (column.membership negated items).takesLiterally = false := by
  rw [Column.membership]
  split <;> rfl

theorem takesLiterally_operatorLeaf? {entry : String × Filter} {leaf : Leaf}
    (isLeaf : scope.operatorLeaf? key entry = some leaf) :
    leaf.condition.takesLiterally = matchesLiterally entry := by
  obtain ⟨single, asked, rfl⟩ := Option.map_eq_some_iff.mp isLeaf
  obtain ⟨operator, isOperator, asked⟩ := Option.bind_eq_some_iff.mp asked
  obtain ⟨spelling, operand⟩ := entry
  cases operand with
  | value value =>
      rw [matchesLiterally, isOperator]
      cases operator with
      | compare comparison =>
          cases asked
          rfl
      | not =>
          cases asked
          exact takesLiterally_equality _ true value
      | textMatch kind =>
          cases asked
          rfl
  | list items =>
      cases operator with
      | compare comparison => cases asked
      | not =>
          cases asked
          exact takesLiterally_membership _ true items
      | textMatch kind => cases asked
  | object entries => cases operator <;> cases asked

mutual

theorem takesLiterally_leaves (scope : Scope) (criteria : List (String × Filter))
    (wildcards : anyLiteral criteria = false) :
    ∀ leaf ∈ scope.leaves criteria, leaf.condition.takesLiterally = false := by
  cases criteria with
  | nil => simp [leaves]
  | cons entry rest =>
      obtain ⟨key, filter⟩ := entry
      rw [anyLiteral, Bool.or_eq_false_iff] at wildcards
      intro leaf member
      rcases List.mem_append.mp member with first | inRest
      · exact takesLiterally_leavesAt scope key filter wildcards.1 leaf first
      · exact takesLiterally_leaves scope rest wildcards.2 leaf inRest
termination_by structural criteria

theorem takesLiterally_leavesAt (scope : Scope) (key : String) (filter : Filter)
    (wildcards : literalAt key filter = false) :
    ∀ leaf ∈ scope.leavesAt key filter, leaf.condition.takesLiterally = false := by
  intro leaf member
  cases filter with
  | value value =>
      rw [leavesAt] at member
      cases kind : CriteriaKey.ofText key with
      | group connective => simp [kind] at member
      | patterns => simp [kind] at member
      | column key =>
          simp only [kind, List.mem_singleton] at member
          subst member
          exact takesLiterally_equality _ false value
  | list items =>
      rw [leavesAt] at member
      cases kind : CriteriaKey.ofText key with
      | group connective =>
          simp only [kind] at member
          exact takesLiterally_elementLeaves scope items wildcards leaf member
      | patterns => simp [kind] at member
      | column key =>
          simp only [kind, List.mem_singleton] at member
          subst member
          exact takesLiterally_membership _ false items
  | object entries =>
      rw [leavesAt] at member
      rw [literalAt] at wildcards
      cases kind : CriteriaKey.ofText key with
      | group connective => simp [kind] at member
      | patterns =>
          simp only [kind] at member
          obtain ⟨entry, _, isLeaf⟩ := List.mem_filterMap.mp member
          exact takesLiterally_patternLeaf? isLeaf
      | column key =>
          simp only [kind, Bool.or_eq_false_iff, List.any_eq_false] at member wildcards
          split at member
          · rename_i table _
            obtain ⟨inner, inEntries, rfl⟩ := List.mem_map.mp member
            exact takesLiterally_leaves (scope.enter key table) entries wildcards.2 inner inEntries
          · obtain ⟨entry, inEntries, isLeaf⟩ := List.mem_filterMap.mp member
            rw [takesLiterally_operatorLeaf? isLeaf]
            exact Bool.eq_false_iff.mpr (wildcards.1 entry inEntries)
termination_by structural filter

theorem takesLiterally_elementLeaves (scope : Scope) (items : List Filter)
    (wildcards : literalIn items = false) :
    ∀ leaf ∈ scope.elementLeaves items, leaf.condition.takesLiterally = false := by
  cases items with
  | nil => simp [elementLeaves]
  | cons item rest =>
      intro leaf member
      cases item with
      | value value => exact takesLiterally_elementLeaves scope rest wildcards leaf member
      | list items => exact takesLiterally_elementLeaves scope rest wildcards leaf member
      | object entries =>
          rw [literalIn, Bool.or_eq_false_iff] at wildcards
          rcases List.mem_append.mp member with first | inRest
          · exact takesLiterally_leaves scope entries wildcards.1 leaf first
          · exact takesLiterally_elementLeaves scope rest wildcards.2 leaf inRest
termination_by structural items

end

end Scope

end QuerySql
