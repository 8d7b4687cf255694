import QuerySql.Predicate.Expansion
import QuerySql.Proofs.Schema.Extension

namespace QuerySql

namespace Scope

def inSchema (scope : Scope) (schema : Schema) : Scope :=
  { scope with schema }

variable {scope : Scope} {larger : Schema}

theorem operations_over (key : String) (entries : Criteria) :
    (scope.inSchema larger).operations key entries = scope.operations key entries := by
  induction entries with
  | nil => rfl
  | cons entry rest ih =>
      obtain ⟨spelling, operand⟩ := entry
      rw [operations, operations, ih]
      rfl

theorem patterns_over (entries : Criteria) :
    (scope.inSchema larger).patterns entries = scope.patterns entries := by
  induction entries with
  | nil => rfl
  | cons entry rest ih =>
      obtain ⟨key, pattern⟩ := entry
      cases pattern with
      | value value =>
          rw [patterns, patterns, ih]
          rfl
      | list items => rfl
      | object entries => rfl

theorem keeps_associated (extension : scope.schema.Extends larger) (key : String)
    (entries : Criteria) :
    Keeps (scope.associated key entries) ((scope.inSchema larger).associated key entries) := by
  have sameTarget : (scope.inSchema larger).table.resolve? key = scope.table.resolve? key := rfl
  rw [associated, associated, sameTarget]
  split
  · exact .refl _
  · split
    · exact .refl _
    · rename_i target _
      split
      · exact .refl _
      · exact (extension target).map some

mutual

theorem keeps_expandAll {scope : Scope} (extension : scope.schema.Extends larger)
    (entries : List (String × Filter)) :
    Keeps (scope.expandAll entries) ((scope.inSchema larger).expandAll entries) := by
  cases entries with
  | nil => exact .refl _
  | cons entry rest =>
      obtain ⟨key, filter⟩ := entry
      rw [expandAll, expandAll]
      exact (keeps_expand extension key filter).bind fun predicate =>
        (keeps_expandAll extension rest).map _
termination_by structural entries

theorem keeps_expand {scope : Scope} (extension : scope.schema.Extends larger) (key : String)
    (filter : Filter) :
    Keeps (scope.expand key filter) ((scope.inSchema larger).expand key filter) := by
  cases filter with
  | value value => exact .refl _
  | list items =>
      rw [expand, expand]
      cases CriteriaKey.ofText key with
      | group connective =>
          dsimp only
          split
          · exact .refl _
          · exact (keeps_expandElements extension connective items).map _
      | patterns => exact .refl _
      | column key => exact .refl _
  | object entries =>
      rw [expand, expand]
      cases CriteriaKey.ofText key with
      | group connective => exact .refl _
      | patterns =>
          dsimp only
          rw [patterns_over]
          exact .refl _
      | column key =>
          refine (keeps_associated extension key entries).bind fun related => ?_
          cases related with
          | none =>
              dsimp only
              rw [operations_over]
              exact .refl _
          | some table =>
              exact (@keeps_expandAll (scope.enter key table) extension entries).map _
termination_by structural filter

theorem keeps_expandElements {scope : Scope} (extension : scope.schema.Extends larger)
    (connective : Connective) (items : List Filter) :
    Keeps (scope.expandElements connective items)
      ((scope.inSchema larger).expandElements connective items) := by
  cases items with
  | nil => exact .refl _
  | cons item rest =>
      cases item with
      | value value => exact .refl _
      | list items => exact .refl _
      | object entries =>
          rw [expandElements, expandElements]
          refine (keeps_expandAll extension entries).bind fun predicates => ?_
          split
          · split
            · exact .refl _
            · exact keeps_expandElements extension connective rest
          · exact (keeps_expandElements extension connective rest).map _
termination_by structural items

end

end Scope

end QuerySql
