import QuerySql.Proofs.Predicate.Qualifiers
import QuerySql.Proofs.Predicate.View
import QuerySql.Proofs.Sql.Inlined

/-!
Predicates under other qualifiers.  What a scope's columns are referred to by decides nothing but
the qualifiers of conditions: scopes of one table expand criteria alike, or fail alike, and their
predicates are equal where their qualifiers are.
-/

namespace QuerySql

open Sql

def Column.requalified (name : String → String) (column : Column) : Column :=
  { column with ref.qualifier := name column.ref.qualifier }

def Condition.requalified (name : String → String) : Condition → Condition
  | .constant holds => .constant holds
  | .null column negated => .null (column.requalified name) negated
  | .compare column relation operand => .compare (column.requalified name) relation operand
  | .member column negated operands => .member (column.requalified name) negated operands
  | .textMatch column kind text => .textMatch (column.requalified name) kind text

namespace Predicate

variable (name : String → String)

mutual

/-- The predicate with other names in the place of its qualifiers. -/
def requalified : Predicate → Predicate
  | .condition single => .condition (single.requalified name)
  | .every parts => .every (requalifiedParts parts)
  | .group connective elements => .group connective (requalifiedElements elements)
termination_by structural predicate => predicate

def requalifiedParts : List Predicate → List Predicate
  | [] => []
  | part :: rest => part.requalified :: requalifiedParts rest
termination_by structural parts => parts

def requalifiedElements : List (List Predicate) → List (List Predicate)
  | [] => []
  | element :: rest => requalifiedParts element :: requalifiedElements rest
termination_by structural elements => elements

end

theorem requalifiedParts_eq_map (parts : List Predicate) :
    requalifiedParts name parts = parts.map (requalified name) := by
  induction parts with
  | nil => rfl
  | cons part rest ih => rw [requalifiedParts, ih, List.map_cons]

theorem requalifiedElements_eq_map (elements : List (List Predicate)) :
    requalifiedElements name elements = elements.map (List.map (requalified name)) := by
  induction elements with
  | nil => rfl
  | cons element rest ih =>
      rw [requalifiedElements, ih, requalifiedParts_eq_map, List.map_cons]

end Predicate

@[simp] theorem Condition.requalified_id (condition : Condition) :
    condition.requalified id = condition := by
  cases condition <;> rfl

namespace Predicate

mutual

@[simp] theorem requalified_id (predicate : Predicate) : predicate.requalified id = predicate := by
  cases predicate with
  | condition single => rw [requalified, single.requalified_id]
  | every parts => rw [requalified, requalifiedParts_id parts]
  | group connective elements => rw [requalified, requalifiedElements_id elements]
termination_by structural predicate

theorem requalifiedParts_id (parts : List Predicate) : requalifiedParts id parts = parts := by
  cases parts with
  | nil => rfl
  | cons part rest => rw [requalifiedParts, requalified_id part, requalifiedParts_id rest]
termination_by structural parts

theorem requalifiedElements_id (elements : List (List Predicate)) :
    requalifiedElements id elements = elements := by
  cases elements with
  | nil => rfl
  | cons element rest =>
      rw [requalifiedElements, requalifiedParts_id element, requalifiedElements_id rest]
termination_by structural elements

end

theorem map_requalified_id : List.map (requalified id) = id := by
  funext predicates
  exact (List.map_congr_left fun predicate _ => requalified_id predicate).trans
    (List.map_id predicates)

variable (name : String → String)

mutual

theorem leaves_requalified (predicate : Predicate) :
    (predicate.requalified name).leaves = predicate.leaves.map (Condition.requalified name) := by
  cases predicate with
  | condition single => rfl
  | every parts => rw [requalified, leaves, leaves, partLeaves_requalified parts]
  | group connective elements =>
      rw [requalified, leaves, leaves, elementLeaves_requalified elements]
termination_by structural predicate

theorem partLeaves_requalified (parts : List Predicate) :
    partLeaves (requalifiedParts name parts) =
      (partLeaves parts).map (Condition.requalified name) := by
  cases parts with
  | nil => rfl
  | cons part rest =>
      rw [requalifiedParts, partLeaves, partLeaves, leaves_requalified part,
        partLeaves_requalified rest, List.map_append]
termination_by structural parts

theorem elementLeaves_requalified (elements : List (List Predicate)) :
    elementLeaves (requalifiedElements name elements) =
      (elementLeaves elements).map (Condition.requalified name) := by
  cases elements with
  | nil => rfl
  | cons element rest =>
      rw [requalifiedElements, elementLeaves, elementLeaves, partLeaves_requalified element,
        elementLeaves_requalified rest, List.map_append]
termination_by structural elements

end

end Predicate

theorem Condition.bound_requalified (name : String → String) (dialect : Dialect)
    (condition : Condition) :
    Fragment.bound ((condition.requalified name).fragments dialect) =
      Fragment.bound (condition.fragments dialect) := by
  have sameInputs :
      (condition.requalified name).inputs dialect = condition.inputs dialect := by
    cases condition <;> rfl
  have noneInColumns (condition : Condition) :
      (condition.column?.toList.flatMap fun column => Fragment.bound column.ref.fragments) = [] :=
    List.flatMap_eq_nil_iff.mpr fun column _ => rfl
  rw [Fragment.sees_bound.condition, Fragment.sees_bound.condition, sameInputs, noneInColumns,
    noneInColumns]

theorem Predicate.bound_requalified (name : String → String) (dialect : Dialect)
    (predicate : Predicate) :
    Fragment.bound ((predicate.requalified name).fragments dialect) =
      Fragment.bound (predicate.fragments dialect) := by
  rw [Fragment.sees_bound.fragments, Fragment.sees_bound.fragments, leaves_requalified,
    List.flatMap_map]
  simp only [Condition.bound_requalified]

namespace Scope

/-- Both scopes are of one table in one schema.  What they call it does not matter. -/
structure SharesTable (scope other : Scope) : Prop where
  schema : other.schema = scope.schema
  resolve? : other.table.resolve? = scope.table.resolve?

/-- Leaves on columns are referred to alike, as far as the names of qualifiers are told apart. -/
def AgreesOn (name : String → String) (scope other : Scope) (leaves : List Leaf) : Prop :=
  ∀ leaf ∈ leaves, leaf.condition.column?.isSome →
    name (other.qualifierAt leaf.path) = name (scope.qualifierAt leaf.path)

variable {name : String → String} {scope other : Scope} {key : String}

theorem AgreesOn.own {leaves : List Leaf} {condition : Condition}
    (agrees : AgreesOn name scope other leaves) (member : Leaf.own condition ∈ leaves)
    (onColumn : condition.column?.isSome) : name other.qualifier = name scope.qualifier :=
  agrees (.own condition) member onColumn

theorem SharesTable.enter (shares : SharesTable scope other) (key : String) (table : Table) :
    SharesTable (scope.enter key table) (other.enter key table) :=
  ⟨shares.schema, rfl⟩

namespace SharesTable

variable (shares : SharesTable scope other)

include shares

theorem column (same : name other.qualifier = name scope.qualifier) :
    (other.column key).requalified name = (scope.column key).requalified name := by
  rw [Scope.column, Scope.column, shares.resolve?]
  split <;> simp only [Column.requalified, same]

theorem associated (entries : Criteria) :
    other.associated key entries = scope.associated key entries := by
  rw [Scope.associated, Scope.associated, shares.resolve?, shares.schema]

theorem equality (same : name other.qualifier = name scope.qualifier) (value : Value) :
    (other.equality key value).requalified name =
      (scope.equality key value).requalified name := by
  rw [Scope.equality, Scope.equality]
  split <;>
    simp only [Predicate.requalified, Condition.requalified, shares.column same]

theorem membership {negated : Bool} {items : List Filter}
    (same : ((scope.column key).membership negated items).column?.isSome →
      name other.qualifier = name scope.qualifier) :
    (other.membership key negated items).map (Predicate.requalified name) =
      (scope.membership key negated items).map (Predicate.requalified name) := by
  cases items with
  | nil => rfl
  | cons item rest =>
      rw [Scope.membership, Scope.membership]
      cases listValues key (item :: rest) with
      | error error => rfl
      | ok values =>
          refine congrArg Except.ok ?_
          dsimp only
          split
          · rfl
          · simp only [Predicate.requalified, Condition.requalified, shares.column (same rfl)]

theorem textMatch (same : name other.qualifier = name scope.qualifier) (spelling : String)
    (kind : TextMatch) (value : Value) :
    (other.textMatch key spelling kind value).map (Predicate.requalified name) =
      (scope.textMatch key spelling kind value).map (Predicate.requalified name) := by
  rw [Scope.textMatch, Scope.textMatch]
  split
  · rfl
  · simp only [Except.map, Predicate.requalified, Condition.requalified, shares.column same]

theorem operation (spelling : String) {operator : Operator} {operand : Filter}
    (same : ∀ single, (scope.column key).operation? operator operand = some single →
      single.column?.isSome → name other.qualifier = name scope.qualifier) :
    (other.operation key spelling operator operand).map (Predicate.requalified name) =
      (scope.operation key spelling operator operand).map (Predicate.requalified name) := by
  cases operand with
  | value value =>
      cases operator with
      | compare comparison =>
          simp only [Scope.operation, Except.map, Predicate.requalified, Condition.requalified,
            shares.column (same _ rfl rfl)]
      | not =>
          have onColumn : ((scope.column key).equality true value).column?.isSome := by
            rw [Column.equality]
            split <;> rfl
          rw [Scope.operation, Scope.operation]
          split <;> simp only [Except.map, Predicate.requalified, Condition.requalified,
            shares.column (same _ rfl onColumn)]
      | textMatch kind => exact shares.textMatch (same _ rfl rfl) spelling kind value
  | list items =>
      rw [Scope.operation, Scope.operation]
      split
      · rename_i isNot
        subst isNot
        exact shares.membership (same _ rfl)
      · rfl
  | object entries => rfl

theorem operations {entries : Criteria}
    (agrees : AgreesOn name scope other (entries.filterMap (scope.operatorLeaf? key))) :
    (other.operations key entries).map (List.map (Predicate.requalified name)) =
      (scope.operations key entries).map (List.map (Predicate.requalified name)) := by
  induction entries with
  | nil => rfl
  | cons entry rest ih =>
      obtain ⟨spelling, operand⟩ := entry
      rw [Scope.operations, Scope.operations]
      cases isOperator : Operator.ofKey? spelling with
      | none => rfl
      | some operator =>
          have first : ∀ single, (scope.column key).operation? operator operand = some single →
              single.column?.isSome → name other.qualifier = name scope.qualifier := by
            intro single asked
            refine agrees.own (List.mem_filterMap.mpr ⟨_, List.mem_cons_self, ?_⟩)
            rw [operatorLeaf?, isOperator, Option.bind_some, asked, Option.map_some]
          have others := ih fun leaf member => by
            obtain ⟨entry, inRest, isLeaf⟩ := List.mem_filterMap.mp member
            exact agrees leaf
              (List.mem_filterMap.mpr ⟨entry, List.mem_cons_of_mem _ inRest, isLeaf⟩)
          apply map_bind_congr (shares.operation spelling first)
          intro predicate predicate' samePredicate
          apply map_map_congr others
          intro following following' sameFollowing
          rw [List.map_cons, List.map_cons, samePredicate, sameFollowing]

theorem patterns {entries : Criteria}
    (agrees : AgreesOn name scope other (entries.filterMap scope.patternLeaf?)) :
    (other.patterns entries).map (List.map (Predicate.requalified name)) =
      (scope.patterns entries).map (List.map (Predicate.requalified name)) := by
  induction entries with
  | nil => rfl
  | cons entry rest ih =>
      obtain ⟨key, pattern⟩ := entry
      cases pattern with
      | value value =>
          have first : name other.qualifier = name scope.qualifier := agrees.own
            (List.mem_filterMap.mpr ⟨(key, .value value), List.mem_cons_self, rfl⟩) rfl
          have others := ih fun leaf member => by
            obtain ⟨entry, inRest, isLeaf⟩ := List.mem_filterMap.mp member
            exact agrees leaf
              (List.mem_filterMap.mpr ⟨entry, List.mem_cons_of_mem _ inRest, isLeaf⟩)
          rw [Scope.patterns, Scope.patterns]
          apply map_bind_congr (shares.textMatch first "like" .like value)
          intro predicate predicate' samePredicate
          apply map_map_congr others
          intro following following' sameFollowing
          rw [List.map_cons, List.map_cons, samePredicate, sameFollowing]
      | list items => rfl
      | object entries => rfl

end SharesTable

theorem expand_associated {entries : Criteria} {related : Table}
    (isColumn : CriteriaKey.ofText key = .column key)
    (isFilter : scope.associated key entries = .ok (some related)) :
    scope.expand key (.object entries) =
      ((scope.enter key related).expandAll entries).map every? := by
  rw [expand, isColumn]
  dsimp only
  rw [isFilter]
  rfl

theorem requalified_every? (name : String → String) (predicates : List Predicate) :
    (every? predicates).map (Predicate.requalified name) =
      every? (predicates.map (Predicate.requalified name)) := by
  rw [every?, every?, List.isEmpty_map]
  split
  · rfl
  · rw [Option.map_some, Predicate.requalified, Predicate.requalifiedParts_eq_map]

theorem requalified_grouped (name : String → String) (connective : Connective)
    (elements : Option (List (List Predicate))) :
    (elements.bind fun elements =>
        if elements.isEmpty then none else some (Predicate.group connective elements)).map
          (Predicate.requalified name) =
      (elements.map (List.map (List.map (Predicate.requalified name)))).bind fun elements =>
        if elements.isEmpty then none else some (.group connective elements) := by
  cases elements with
  | none => rfl
  | some elements =>
      rw [Option.bind_some, Option.map_some, Option.bind_some, List.isEmpty_map]
      split
      · rfl
      · rw [Option.map_some, Predicate.requalified, Predicate.requalifiedElements_eq_map]

mutual

/-- Scopes of one table expand criteria into predicates that differ at most in their qualifiers, or
fail with the same error. -/
theorem requalified_expandAll (scope other : Scope) (shares : SharesTable scope other)
    (criteria : List (String × Filter))
    (agrees : AgreesOn name scope other (scope.leaves criteria)) :
    (other.expandAll criteria).map (List.map (Predicate.requalified name)) =
      (scope.expandAll criteria).map (List.map (Predicate.requalified name)) := by
  cases criteria with
  | nil => rfl
  | cons entry rest =>
      obtain ⟨key, filter⟩ := entry
      rw [expandAll, expandAll]
      apply map_bind_congr (requalified_expand scope other shares key filter
        fun leaf member => agrees leaf (List.mem_append_left _ member))
      intro predicate predicate' same
      apply map_map_congr (requalified_expandAll scope other shares rest
        fun leaf member => agrees leaf (List.mem_append_right _ member))
      intro others others' sameOthers
      exact map_toList_append_congr same sameOthers
termination_by structural criteria

theorem requalified_expand (scope other : Scope) (shares : SharesTable scope other) (key : String)
    (filter : Filter) (agrees : AgreesOn name scope other (scope.leavesAt key filter)) :
    (other.expand key filter).map (Option.map (Predicate.requalified name)) =
      (scope.expand key filter).map (Option.map (Predicate.requalified name)) := by
  cases filter with
  | value value =>
      rw [expand, expand]
      rw [leavesAt] at agrees
      cases kind : CriteriaKey.ofText key with
      | group connective => rfl
      | patterns => rfl
      | column key =>
          simp only [kind] at agrees
          have onColumn : ((scope.column key).equality false value).column?.isSome := by
            rw [Column.equality]
            split <;> rfl
          exact congrArg (fun part => Except.ok (some part))
            (shares.equality (agrees.own List.mem_cons_self onColumn) value)
  | list items =>
      rw [expand, expand]
      rw [leavesAt] at agrees
      cases kind : CriteriaKey.ofText key with
      | group connective =>
          simp only [kind] at agrees
          dsimp only
          split
          · rfl
          · apply map_map_congr
              (requalified_expandElements scope other shares connective items agrees)
            intro elements elements' same
            rw [requalified_grouped, requalified_grouped, same]
      | patterns => rfl
      | column key =>
          simp only [kind] at agrees
          apply map_map_congr (shares.membership (agrees.own List.mem_cons_self))
          intro predicate predicate' same
          exact congrArg some same
  | object entries =>
      rw [expand, expand]
      rw [leavesAt] at agrees
      cases kind : CriteriaKey.ofText key with
      | group connective => rfl
      | patterns =>
          simp only [kind] at agrees
          apply map_map_congr (shares.patterns agrees)
          intro predicates predicates' same
          rw [requalified_every?, requalified_every?, same]
      | column key =>
          simp only [kind] at agrees
          dsimp only
          rw [shares.associated]
          cases related : scope.associated key entries with
          | error error => rfl
          | ok found =>
              simp only [related] at agrees
              cases found with
              | some table =>
                  apply map_map_congr (requalified_expandAll (scope.enter key table)
                    (other.enter key table) (shares.enter key table) entries ?_)
                  · intro predicates predicates' same
                    rw [requalified_every?, requalified_every?, same]
                  · intro leaf member onColumn
                    rw [← qualifierAt_cons, ← qualifierAt_cons]
                    exact agrees _ (List.mem_map_of_mem member) onColumn
              | none =>
                  apply map_map_congr (shares.operations agrees)
                  intro predicates predicates' same
                  rw [requalified_every?, requalified_every?, same]
termination_by structural filter

theorem requalified_expandElements (scope other : Scope) (shares : SharesTable scope other)
    (connective : Connective) (items : List Filter)
    (agrees : AgreesOn name scope other (scope.elementLeaves items)) :
    (other.expandElements connective items).map
        (Option.map (List.map (List.map (Predicate.requalified name)))) =
      (scope.expandElements connective items).map
        (Option.map (List.map (List.map (Predicate.requalified name)))) := by
  cases items with
  | nil => rfl
  | cons item rest =>
      cases item with
      | value value => rfl
      | list items => rfl
      | object entries =>
          have others := requalified_expandElements scope other shares connective rest
            fun leaf member => agrees leaf (List.mem_append_right _ member)
          rw [expandElements, expandElements]
          apply map_bind_congr (requalified_expandAll scope other shares entries
            fun leaf member => agrees leaf (List.mem_append_left _ member))
          intro parts parts' same
          rw [isEmpty_eq_of_map_eq same]
          split
          · split
            · rfl
            · exact others
          · apply map_map_congr others
            intro elements elements' sameElements
            rw [Predicate.map_view_cons, Predicate.map_view_cons, same, sameElements]
termination_by structural items

end

theorem expandAll_eq_of_agreesOn (shares : SharesTable scope other) {criteria : Criteria}
    (agrees : AgreesOn id scope other (scope.leaves criteria)) :
    other.expandAll criteria = scope.expandAll criteria := by
  have same := requalified_expandAll scope other shares criteria agrees
  rwa [Predicate.map_requalified_id, Except.map_id, id, id] at same

end Scope

end QuerySql
