import QuerySql.Proofs.Predicate.Expansion
import QuerySql.Proofs.Sql.Observation

/-!
Leaves of criteria: the conditions that the keys of a tree put on columns, each with the association
filters that it stands in.  Expansion keeps the leaves in their order, and drops no others than
those of a disjunction that holds of every row.
-/

namespace QuerySql

open Sql

namespace Predicate

mutual

/-- The conditions that a predicate is made of, from left to right. -/
def leaves : Predicate → List Condition
  | .condition single => [single]
  | .every parts => partLeaves parts
  | .group _ elements => elementLeaves elements
termination_by structural predicate => predicate

def partLeaves : List Predicate → List Condition
  | [] => []
  | part :: rest => part.leaves ++ partLeaves rest
termination_by structural parts => parts

def elementLeaves : List (List Predicate) → List Condition
  | [] => []
  | element :: rest => partLeaves element ++ elementLeaves rest
termination_by structural elements => elements

end

theorem partLeaves_eq_flatMap (parts : List Predicate) :
    partLeaves parts = parts.flatMap leaves := by
  induction parts with
  | nil => rfl
  | cons part rest ih => rw [partLeaves, ih, List.flatMap_cons]

theorem elementLeaves_eq_flatMap (elements : List (List Predicate)) :
    elementLeaves elements = elements.flatMap fun element => element.flatMap leaves := by
  induction elements with
  | nil => rfl
  | cons element rest ih => rw [elementLeaves, ih, partLeaves_eq_flatMap, List.flatMap_cons]

end Predicate

namespace Condition

def column? : Condition → Option Column
  | .constant _ => none
  | .null column _ | .compare column _ _ | .member column _ _ | .textMatch column _ _ => some column

/-- The fragments that stand for what a column is compared with. -/
def inputs (dialect : Dialect) : Condition → List Fragment
  | .constant _ | .null _ _ => []
  | .compare column _ operand =>
      [operandFragment (column.isFolded dialect operand.isString) operand]
  | .member column _ operands =>
      operands.map (operandFragment (column.isFolded dialect (operands.any Value.isString)))
  | .textMatch column kind text =>
      [.pattern kind (if column.isFolded dialect true then Text.lower text else text)]

theorem mem_inputs {dialect : Dialect} {condition : Condition} {input : Fragment}
    (member : input ∈ condition.inputs dialect) :
    (∃ value, input = .operand value) ∨
      ∃ column kind text written,
        condition = .textMatch column kind text ∧ input = .pattern kind written := by
  cases condition with
  | constant holds => cases member
  | null column negated => cases member
  | compare column relation operand => exact .inl ⟨_, List.mem_singleton.mp member⟩
  | member column negated operands =>
      obtain ⟨operand, _, rfl⟩ := List.mem_map.mp member
      exact .inl ⟨_, rfl⟩
  | textMatch column kind text =>
      exact .inr ⟨column, kind, text, _, rfl, List.mem_singleton.mp member⟩

end Condition

namespace Sql.Fragment.SeesThrough

variable {β : Type} {observe : List Fragment → List β}

theorem column (sees : SeesThrough observe) (column : Column) (folded : Bool) :
    observe (column.fragments folded) = observe column.ref.fragments := by
  unfold Column.fragments
  split
  · rw [List.cons_append, sees.fixed (by decide), sees.trailing (by decide)]
  · rfl

theorem condition (sees : SeesThrough observe) (dialect : Dialect) (condition : Condition) :
    observe (condition.fragments dialect) =
      (condition.column?.toList.flatMap fun column => observe column.ref.fragments) ++
        (condition.inputs dialect).flatMap fun input => observe [input] := by
  cases condition with
  | constant holds =>
      have notPoint : (if holds then "1=1" else "1=0") ≠ "." := by cases holds <;> decide
      rw [Condition.fragments, sees.fixed notPoint, sees.nil]
      rfl
  | null column negated =>
      have notPoint : (if negated then " IS NOT NULL" else " IS NULL") ≠ "." := by
        cases negated <;> decide
      rw [Condition.fragments, sees.trailing notPoint, sees.column]
      simp [Condition.column?, Condition.inputs]
  | compare column relation operand =>
      have notPoint : " " ++ relation.sql ++ " " ≠ "." := by
        cases relation with
        | equal => decide
        | notEqual => decide
        | order comparison => cases comparison <;> decide
      rw [Condition.fragments, sees.link _ _ _ notPoint, sees.column]
      simp [Condition.column?, Condition.inputs]
  | member column negated operands =>
      have notPoint : (if negated then " NOT IN (" else " IN (") ≠ "." := by
        cases negated <;> decide
      rw [Condition.fragments, List.append_assoc, List.cons_append, sees.link _ _ _ notPoint,
        sees.trailing (by decide), sees.column, sees.separated (by decide)]
      simp [Condition.column?, Condition.inputs, List.flatMap_map]
  | textMatch column kind text =>
      have notPoint (folded : Bool) :
          " " ++ patternComparator folded dialect.foldsCase ++ " " ≠ "." := by
        cases folded <;> cases dialect.foldsCase <;> decide
      rw [Condition.fragments, sees.link _ _ _ (notPoint _), sees.column]
      simp [Condition.column?, Condition.inputs]

theorem parenthesized (sees : SeesThrough observe) (fragments : List Fragment) :
    observe (Predicate.parenthesized fragments) = observe fragments := by
  rw [Predicate.parenthesized, List.cons_append, sees.fixed (by decide),
    sees.trailing (by decide)]

theorem conjunction (sees : SeesThrough observe) (parts : List (List Fragment)) :
    observe (Predicate.conjunction parts) = parts.flatMap observe :=
  sees.separated (by decide) parts

variable (dialect : Dialect)

mutual

theorem fragments (sees : SeesThrough observe) (predicate : Predicate) :
    observe (predicate.fragments dialect) =
      predicate.leaves.flatMap fun condition => observe (condition.fragments dialect) := by
  cases predicate with
  | condition single =>
      rw [Predicate.fragments, Predicate.leaves, List.flatMap_singleton]
  | every parts =>
      rw [Predicate.fragments, sees.conjunction]
      exact sees.partsFragments parts
  | group connective elements =>
      have notPoint : connective.joiner ≠ "." := by cases connective <;> decide
      rw [Predicate.fragments, sees.parenthesized, sees.separated notPoint]
      exact sees.elementsFragments elements
termination_by structural predicate

theorem partsFragments (sees : SeesThrough observe) (parts : List Predicate) :
    (Predicate.partsFragments dialect parts).flatMap observe =
      (Predicate.partLeaves parts).flatMap fun condition =>
        observe (condition.fragments dialect) := by
  cases parts with
  | nil => rfl
  | cons part rest =>
      rw [Predicate.partsFragments, Predicate.partLeaves, List.flatMap_cons, List.flatMap_append,
        sees.fragments part, sees.partsFragments rest]
termination_by structural parts

theorem elementsFragments (sees : SeesThrough observe) (elements : List (List Predicate)) :
    (Predicate.elementsFragments dialect elements).flatMap observe =
      (Predicate.elementLeaves elements).flatMap fun condition =>
        observe (condition.fragments dialect) := by
  cases elements with
  | nil => rfl
  | cons element rest =>
      rw [Predicate.elementsFragments, Predicate.elementLeaves, List.flatMap_cons,
        List.flatMap_append, sees.parenthesized, sees.conjunction, sees.partsFragments element,
        sees.elementsFragments rest]
termination_by structural elements

end

end Sql.Fragment.SeesThrough

/-- A condition with the keys of the association filters around it, the outermost first. -/
structure Leaf where
  path : List String
  condition : Condition

namespace Leaf

def own (condition : Condition) : Leaf :=
  ⟨[], condition⟩

def within (key : String) (leaf : Leaf) : Leaf :=
  { leaf with path := key :: leaf.path }

end Leaf

namespace Scope

def patternLeaf? (scope : Scope) (entry : String × Filter) : Option Leaf :=
  ((scope.column entry.1).operation? (.textMatch .like) entry.2).map .own

def operatorLeaf? (scope : Scope) (key : String) (entry : String × Filter) : Option Leaf :=
  ((Operator.ofKey? entry.1).bind fun operator =>
    (scope.column key).operation? operator entry.2).map .own

mutual

/-- The conditions that criteria put on columns, in the order of their keys. -/
def leaves (scope : Scope) : List (String × Filter) → List Leaf
  | [] => []
  | (key, filter) :: rest => leavesAt scope key filter ++ leaves scope rest
termination_by structural criteria => criteria

def leavesAt (scope : Scope) (key : String) : Filter → List Leaf
  | .value value =>
      match CriteriaKey.ofText key with
      | .column key => [.own ((scope.column key).equality false value)]
      | .group _ | .patterns => []
  | .list items =>
      match CriteriaKey.ofText key with
      | .group _ => elementLeaves scope items
      | .column key => [.own ((scope.column key).membership false items)]
      | .patterns => []
  | .object entries =>
      match CriteriaKey.ofText key with
      | .patterns => entries.filterMap scope.patternLeaf?
      | .column key =>
          match scope.associated key entries with
          | .ok (some table) => (leaves (scope.enter key table) entries).map (.within key)
          | _ => entries.filterMap (scope.operatorLeaf? key)
      | .group _ => []
termination_by structural filter => filter

def elementLeaves (scope : Scope) : List Filter → List Leaf
  | [] => []
  | .object entries :: rest => leaves scope entries ++ elementLeaves scope rest
  | _ :: rest => elementLeaves scope rest
termination_by structural elements => elements

end

variable {scope : Scope} {key : String}

theorem leaves_every? (predicates : List Predicate) :
    (every? predicates).toList.flatMap Predicate.leaves = predicates.flatMap Predicate.leaves := by
  rw [every?]
  by_cases isEmpty : predicates.isEmpty
  · rw [if_pos isEmpty, List.isEmpty_iff.mp isEmpty]
    rfl
  · rw [if_neg isEmpty, Option.toList_some, List.flatMap_singleton, Predicate.leaves,
      Predicate.partLeaves_eq_flatMap]

theorem leaves_patterns {entries : Criteria} {predicates : List Predicate}
    (expanded : scope.patterns entries = .ok predicates) :
    predicates.flatMap Predicate.leaves =
      (entries.filterMap scope.patternLeaf?).map Leaf.condition := by
  induction entries generalizing predicates with
  | nil =>
      cases expanded
      rfl
  | cons entry rest ih =>
      obtain ⟨key, pattern⟩ := entry
      cases pattern with
      | value value =>
          obtain ⟨predicate, matched, following⟩ := exists_of_bind_eq_ok expanded
          obtain ⟨others, expandedRest, rfl⟩ := exists_of_map_eq_ok following
          rw [textMatch_eq matched, List.flatMap_cons, ih expandedRest]
          rfl
      | list items => cases expanded
      | object entries => cases expanded

theorem leaves_operations {entries : Criteria} {predicates : List Predicate}
    (expanded : scope.operations key entries = .ok predicates) :
    predicates.flatMap Predicate.leaves =
      (entries.filterMap (scope.operatorLeaf? key)).map Leaf.condition := by
  induction entries generalizing predicates with
  | nil =>
      cases expanded
      rfl
  | cons entry rest ih =>
      obtain ⟨spelling, operand⟩ := entry
      rw [operations] at expanded
      split at expanded
      · cases expanded
      · rename_i operator isOperator
        obtain ⟨predicate, compared, following⟩ := exists_of_bind_eq_ok expanded
        obtain ⟨others, expandedRest, rfl⟩ := exists_of_map_eq_ok following
        obtain ⟨single, isSingle, rfl, _⟩ := operation_eq compared
        have isLeaf : scope.operatorLeaf? key (spelling, operand) = some (.own single) := by
          rw [operatorLeaf?, isOperator, Option.bind_some, isSingle, Option.map_some]
        rw [List.filterMap_cons_some isLeaf, List.flatMap_cons, ih expandedRest]
        rfl

theorem leaves_group (connective : Connective) (elements : Option (List (List Predicate))) :
    ((elements.bind fun elements =>
        if elements.isEmpty then none
        else some (Predicate.group connective elements)).toList.flatMap Predicate.leaves) =
      (elements.getD []).flatMap fun element => element.flatMap Predicate.leaves := by
  cases elements with
  | none => rfl
  | some elements =>
      rw [Option.bind_some, Option.getD_some]
      by_cases isEmpty : elements.isEmpty
      · rw [if_pos isEmpty, List.isEmpty_iff.mp isEmpty]
        rfl
      · rw [if_neg isEmpty, Option.toList_some, List.flatMap_singleton, Predicate.leaves,
          Predicate.elementLeaves_eq_flatMap]

mutual

/-- Expanded criteria put the conditions of the tree on columns, in the same order; only those of
disjunctions that hold of every row are left out. -/
theorem leaves_expandAll (scope : Scope) (criteria : List (String × Filter))
    (predicates : List Predicate) (expanded : scope.expandAll criteria = .ok predicates) :
    (predicates.flatMap Predicate.leaves).Sublist
      ((scope.leaves criteria).map Leaf.condition) := by
  cases criteria with
  | nil =>
      cases expanded
      exact List.Sublist.slnil
  | cons entry rest =>
      obtain ⟨key, filter⟩ := entry
      obtain ⟨predicate, expandedFirst, following⟩ := exists_of_bind_eq_ok expanded
      obtain ⟨others, expandedRest, rfl⟩ := exists_of_map_eq_ok following
      rw [leaves, List.map_append, List.flatMap_append]
      exact (leaves_expand scope key filter predicate expandedFirst).append
        (leaves_expandAll scope rest others expandedRest)
termination_by structural criteria

theorem leaves_expand (scope : Scope) (key : String) (filter : Filter)
    (predicate : Option Predicate) (expanded : scope.expand key filter = .ok predicate) :
    (predicate.toList.flatMap Predicate.leaves).Sublist
      ((scope.leavesAt key filter).map Leaf.condition) := by
  cases filter with
  | value value =>
      rw [expand] at expanded
      rw [leavesAt]
      cases kind : CriteriaKey.ofText key with
      | group connective => simp [kind] at expanded
      | patterns => simp [kind] at expanded
      | column key =>
          simp only [kind] at expanded
          cases expanded
          rw [equality_eq]
          exact List.Sublist.refl _
  | list items =>
      rw [expand] at expanded
      rw [leavesAt]
      cases kind : CriteriaKey.ofText key with
      | group connective =>
          simp only [kind] at expanded
          split at expanded
          · cases expanded
          · obtain ⟨elements, expandedItems, rfl⟩ := exists_of_map_eq_ok expanded
            rw [leaves_group]
            exact leaves_expandElements scope connective items elements expandedItems
      | patterns => simp [kind] at expanded
      | column key =>
          simp only [kind] at expanded
          obtain ⟨predicate, isMember, rfl⟩ := exists_of_map_eq_ok expanded
          rw [(membership_eq isMember).1]
          exact List.Sublist.refl _
  | object entries =>
      rw [expand] at expanded
      rw [leavesAt]
      cases kind : CriteriaKey.ofText key with
      | group connective => simp [kind] at expanded
      | patterns =>
          simp only [kind] at expanded
          obtain ⟨predicates, matched, rfl⟩ := exists_of_map_eq_ok expanded
          rw [leaves_every?, leaves_patterns matched]
      | column key =>
          simp only [kind] at expanded
          obtain ⟨related, isRelated, following⟩ := exists_of_bind_eq_ok expanded
          simp only [isRelated]
          cases related with
          | some table =>
              obtain ⟨predicates, nested, rfl⟩ := exists_of_map_eq_ok following
              have inside := leaves_expandAll (scope.enter key table) entries predicates nested
              rw [leaves_every?, List.map_map]
              exact inside
          | none =>
              obtain ⟨predicates, compared, rfl⟩ := exists_of_map_eq_ok following
              rw [leaves_every?, leaves_operations compared]
termination_by structural filter

theorem leaves_expandElements (scope : Scope) (connective : Connective) (items : List Filter)
    (elements : Option (List (List Predicate)))
    (expanded : scope.expandElements connective items = .ok elements) :
    ((elements.getD []).flatMap fun element => element.flatMap Predicate.leaves).Sublist
      ((scope.elementLeaves items).map Leaf.condition) := by
  cases items with
  | nil =>
      cases expanded
      exact List.Sublist.slnil
  | cons item rest =>
      cases item with
      | value value => cases expanded
      | list items => cases expanded
      | object entries =>
          rw [expandElements] at expanded
          rw [elementLeaves, List.map_append]
          obtain ⟨predicates, expandedFirst, following⟩ := exists_of_bind_eq_ok expanded
          have first := leaves_expandAll scope entries predicates expandedFirst
          by_cases isEmpty : predicates.isEmpty
          · rw [if_pos isEmpty] at following
            cases connective with
            | disjunction =>
                -- An alternative without conditions: the group drops all of its elements.
                cases following
                exact List.nil_sublist _
            | conjunction =>
                have others := leaves_expandElements scope .conjunction rest elements following
                exact others.trans (List.sublist_append_right _ _)
          · rw [if_neg isEmpty] at following
            obtain ⟨others, expandedRest, rfl⟩ := exists_of_map_eq_ok following
            have rest := leaves_expandElements scope connective rest others expandedRest
            cases others with
            | none => exact List.nil_sublist _
            | some others => exact first.append rest
termination_by structural items

end

end Scope

end QuerySql
