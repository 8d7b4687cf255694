import Mathlib.Tactic.MkIffOfInductiveProp
import QuerySql.Proofs.Json.Distinct
import QuerySql.Proofs.Predicate.Qualifiers
import QuerySql.Proofs.Predicate.Words
import QuerySql.Proofs.Sql.Marker

namespace QuerySql

open Sql Sql.Fragment

@[mk_iff]
structure Table.Unmarked (table : Table) : Prop where
  name : Caretless table.name
  column : ∀ entry ∈ table.attributes, Caretless (entry.2.column entry.1)

instance : DecidablePred Table.Unmarked := fun table => decidable_of_iff' _ table.unmarked_iff

def Schema.Unmarked (schema : Schema) : Prop :=
  ∀ entry ∈ schema.tables, entry.2.Unmarked

instance : DecidablePred Schema.Unmarked := fun schema =>
  inferInstanceAs (Decidable (∀ entry ∈ schema.tables, entry.2.Unmarked))

variable {schema : Schema} {table : Table} {name key : String}

theorem Schema.exists_mem_of_require (required : schema.require name = .ok table) :
    ∃ entry ∈ schema.tables, entry.2 = table := by
  unfold Schema.require at required
  split at required
  · rename_i found looked
    cases required
    obtain ⟨entry, isFound, rfl⟩ := Option.map_eq_some_iff.mp looked
    rcases Option.or_eq_some_iff.mp isFound with isIdentity | ⟨_, isName⟩
    · exact ⟨entry, List.mem_of_find?_eq_some isIdentity, rfl⟩
    · exact ⟨entry, List.mem_of_find?_eq_some isName, rfl⟩
  · cases required

theorem Schema.Unmarked.require (unmarked : schema.Unmarked)
    (required : schema.require name = .ok table) : table.Unmarked := by
  obtain ⟨entry, member, rfl⟩ := exists_mem_of_require required
  exact unmarked entry member

namespace Table

theorem mem_of_resolve? {entry : String × Attribute} (resolved : table.resolve? key = some entry) :
    entry ∈ table.attributes := by
  rcases Option.or_eq_some_iff.mp resolved with isAttribute | ⟨_, isColumn⟩
  · exact List.mem_of_find?_eq_some isAttribute
  · exact List.mem_of_find?_eq_some isColumn

theorem Unmarked.caretless_column (unmarked : table.Unmarked)
    (caretless : table.resolve? key = none → Caretless key) : Caretless (table.column key) := by
  unfold Table.column
  split
  · rename_i resolved
    exact unmarked.column _ (mem_of_resolve? resolved)
  · rename_i unknown
    exact caretless unknown

theorem Unmarked.caretless_primaryKey (unmarked : table.Unmarked) :
    Caretless (table.column table.primaryKey) := by
  refine unmarked.caretless_column fun unknown => ?_
  unfold primaryKey at unknown ⊢
  split
  · rename_i name attr isPrimary
    rw [isPrimary] at unknown
    have notAttribute := List.find?_eq_none.mp (Option.or_eq_none_iff.mp unknown).1
    exact absurd (beq_self_eq_true name)
      (notAttribute (name, attr) (List.mem_of_find?_eq_some isPrimary))
  · decide

end Table

namespace Filter

mutual

def keys : Filter → List String
  | .value _ => []
  | .list items => itemKeys items
  | .object entries => entryKeys entries
termination_by structural filter => filter

def itemKeys : List Filter → List String
  | [] => []
  | item :: rest => item.keys ++ itemKeys rest
termination_by structural items => items

def entryKeys : List (String × Filter) → List String
  | [] => []
  | (key, filter) :: rest => key :: (filter.keys ++ entryKeys rest)
termination_by structural entries => entries

end

theorem key_mem_entryKeys {entries : List (String × Filter)} {entry : String × Filter}
    (member : entry ∈ entries) : entry.1 ∈ entryKeys entries := by
  induction entries with
  | nil => cases member
  | cons first rest ih =>
      rcases List.mem_cons.mp member with rfl | inRest
      · exact List.mem_cons_self
      · exact List.mem_cons_of_mem first.1 (List.mem_append_right _ (ih inRest))

end Filter

theorem CriteriaKey.column_eq {other : String} (isColumn : ofText key = .column other) :
    other = key := by
  unfold ofText at isColumn
  split_ifs at isColumn
  exact (CriteriaKey.column.inj isColumn).symm

def Leaf.Unmarked (leaf : Leaf) : Prop :=
  ∀ column ∈ leaf.condition.column?,
    Caretless column.ref.qualifier ∧ Caretless column.ref.column

namespace Scope

variable {scope : Scope}

structure Unmarked (scope : Scope) : Prop where
  schema : scope.schema.Unmarked
  table : scope.table.Unmarked
  qualifier : Caretless scope.qualifier
  aliases : ∀ entry ∈ scope.aliases, Caretless entry.1 → Caretless entry.2

theorem Unmarked.caretless_associationQualifier (unmarked : scope.Unmarked)
    (caretless : Caretless key) : Caretless (scope.associationQualifier key) := by
  refine Caretless.append (by decide) ?_
  cases isAlias : scope.aliases.lookup key with
  | none => exact caretless
  | some association => exact unmarked.aliases _ (Fields.mem_of_get? isAlias) caretless

theorem Unmarked.enter (unmarked : scope.Unmarked) (caretless : Caretless key)
    (related : table.Unmarked) : (scope.enter key table).Unmarked where
  schema := unmarked.schema
  table := related
  qualifier := unmarked.caretless_associationQualifier caretless
  aliases := unmarked.aliases

theorem Unmarked.own (unmarked : scope.Unmarked) (caretless : Caretless key) {condition : Condition}
    (onColumn : ∀ column ∈ condition.column?, column = scope.column key) :
    (Leaf.own condition).Unmarked := by
  intro column isColumn
  rw [onColumn column isColumn, column_qualifier]
  refine ⟨unmarked.qualifier, ?_⟩
  unfold Scope.column
  split
  · rename_i resolved
    exact unmarked.table.column _ (Table.mem_of_resolve? resolved)
  · exact caretless

theorem Unmarked.patternLeaf? (unmarked : scope.Unmarked) {entry : String × Filter} {leaf : Leaf}
    (caretless : Caretless entry.1) (isLeaf : scope.patternLeaf? entry = some leaf) :
    leaf.Unmarked := by
  obtain ⟨single, asked, rfl⟩ := Option.map_eq_some_iff.mp isLeaf
  exact unmarked.own caretless fun column => column_operation asked

theorem Unmarked.operatorLeaf? (unmarked : scope.Unmarked) {entry : String × Filter} {leaf : Leaf}
    (caretless : Caretless key) (isLeaf : scope.operatorLeaf? key entry = some leaf) :
    leaf.Unmarked := by
  obtain ⟨single, asked, rfl⟩ := Option.map_eq_some_iff.mp isLeaf
  obtain ⟨operator, _, asked⟩ := Option.bind_eq_some_iff.mp asked
  exact unmarked.own caretless fun column => column_operation asked

theorem exists_require_of_associated {entries : Criteria}
    (isAssociated : scope.associated key entries = .ok (some table)) :
    ∃ target, scope.schema.require target = .ok table := by
  unfold associated at isAssociated
  split at isAssociated
  · cases isAssociated
  · split at isAssociated
    · cases isAssociated
    · rename_i target _
      split at isAssociated
      · cases isAssociated
      · obtain ⟨found, required, isTable⟩ := exists_of_map_eq_ok isAssociated
        cases isTable
        exact ⟨target, required⟩

mutual

theorem unmarked_leaves (scope : Scope) (criteria : List (String × Filter))
    (unmarked : scope.Unmarked) (keys : ∀ key ∈ Filter.entryKeys criteria, Caretless key) :
    ∀ leaf ∈ scope.leaves criteria, leaf.Unmarked := by
  cases criteria with
  | nil => exact List.forall_mem_nil _
  | cons entry rest =>
      obtain ⟨key, filter⟩ := entry
      obtain ⟨own, others⟩ := List.forall_mem_cons.mp keys
      obtain ⟨inner, following⟩ := List.forall_mem_append.mp others
      exact List.forall_mem_append.mpr
        ⟨unmarked_leavesAt scope key filter unmarked own inner,
          unmarked_leaves scope rest unmarked following⟩
termination_by structural criteria

theorem unmarked_leavesAt (scope : Scope) (key : String) (filter : Filter)
    (unmarked : scope.Unmarked) (caretless : Caretless key)
    (keys : ∀ key ∈ filter.keys, Caretless key) :
    ∀ leaf ∈ scope.leavesAt key filter, leaf.Unmarked := by
  cases filter with
  | value value =>
      rw [leavesAt]
      cases kind : CriteriaKey.ofText key with
      | group connective => exact List.forall_mem_nil _
      | patterns => exact List.forall_mem_nil _
      | column other =>
          rw [CriteriaKey.column_eq kind]
          exact List.forall_mem_singleton.mpr (unmarked.own caretless fun _ => column_equality)
  | list items =>
      rw [leavesAt]
      cases kind : CriteriaKey.ofText key with
      | group connective => exact unmarked_elementLeaves scope items unmarked keys
      | patterns => exact List.forall_mem_nil _
      | column other =>
          rw [CriteriaKey.column_eq kind]
          exact List.forall_mem_singleton.mpr (unmarked.own caretless fun _ => column_membership)
  | object entries =>
      rw [leavesAt]
      cases kind : CriteriaKey.ofText key with
      | group connective => exact List.forall_mem_nil _
      | patterns =>
          intro leaf member
          obtain ⟨entry, inEntries, isLeaf⟩ := List.mem_filterMap.mp member
          exact unmarked.patternLeaf? (keys entry.1 (Filter.key_mem_entryKeys inEntries)) isLeaf
      | column other =>
          rw [CriteriaKey.column_eq kind]
          intro leaf member
          simp only at member
          split at member
          · rename_i table isAssociated
            obtain ⟨target, required⟩ := exists_require_of_associated isAssociated
            obtain ⟨inner, inEntries, rfl⟩ := List.mem_map.mp member
            exact unmarked_leaves (scope.enter key table) entries
              (unmarked.enter caretless (unmarked.schema.require required)) keys inner inEntries
          · obtain ⟨entry, _, isLeaf⟩ := List.mem_filterMap.mp member
            exact unmarked.operatorLeaf? caretless isLeaf
termination_by structural filter

theorem unmarked_elementLeaves (scope : Scope) (items : List Filter) (unmarked : scope.Unmarked)
    (keys : ∀ key ∈ Filter.itemKeys items, Caretless key) :
    ∀ leaf ∈ scope.elementLeaves items, leaf.Unmarked := by
  cases items with
  | nil => exact List.forall_mem_nil _
  | cons item rest =>
      obtain ⟨own, others⟩ := List.forall_mem_append.mp keys
      cases item with
      | value value => exact unmarked_elementLeaves scope rest unmarked others
      | list items => exact unmarked_elementLeaves scope rest unmarked others
      | object entries =>
          exact List.forall_mem_append.mpr
            ⟨unmarked_leaves scope entries unmarked own,
              unmarked_elementLeaves scope rest unmarked others⟩
termination_by structural items

end

end Scope

namespace Predicate

theorem mem_names (dialect : Dialect) {predicate : Predicate}
    (isName : name ∈ (predicate.fragments dialect).filterMap name?) :
    ∃ condition ∈ predicate.leaves, ∃ column ∈ condition.column?,
      name ∈ [column.ref.qualifier, column.ref.column] := by
  have sees : SeesThrough (List.filterMap name?) := .filterMap fun _ => rfl
  rw [sees.fragments] at isName
  obtain ⟨condition, isLeaf, inCondition⟩ := List.mem_flatMap.mp isName
  rw [sees.condition] at inCondition
  refine ⟨condition, isLeaf, ?_⟩
  rcases List.mem_append.mp inCondition with onColumn | inInputs
  · obtain ⟨column, isColumn, inRef⟩ := List.mem_flatMap.mp onColumn
    exact ⟨column, Option.mem_toList.mp isColumn, inRef⟩
  · obtain ⟨input, isInput, inInput⟩ := List.mem_flatMap.mp inInputs
    rcases Condition.mem_inputs isInput with ⟨value, rfl⟩ | ⟨_, _, _, _, _, rfl⟩ <;> cases inInput

theorem bare_fragments (dialect : Dialect) {predicate : Predicate}
    (columns : ∀ condition ∈ predicate.leaves, ∀ column ∈ condition.column?,
      Caretless column.ref.qualifier ∧ Caretless column.ref.column) :
    Every Bare (predicate.fragments dialect) := by
  refine (predicate.speak_fragments dialect).bare (by decide +kernel) fun name isName => ?_
  obtain ⟨condition, isLeaf, column, isColumn, inColumn⟩ := mem_names dialect isName
  obtain ⟨qualifier, ofColumn⟩ := columns condition isLeaf column isColumn
  have both : ∀ name ∈ [column.ref.qualifier, column.ref.column], Caretless name :=
    List.forall_mem_cons.mpr ⟨qualifier, List.forall_mem_singleton.mpr ofColumn⟩
  exact both name inColumn

end Predicate

end QuerySql
