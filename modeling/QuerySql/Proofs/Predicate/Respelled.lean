import Mathlib.Data.List.Forall2
import QuerySql.Proofs.Predicate.Requalified

/-!
Attributes spelled as their columns.  Criteria in which keys name columns in the place of attributes
expand whenever the others do, to predicates that differ at most in qualifiers: a filter on an
association is known under its key as it is spelled, and everything else under the attribute.
-/

namespace QuerySql

open Sql

namespace Table

/-- The key names an attribute with a column of another name, which stands for the same attribute
and is no word of criteria. -/
structure Respells (table : Table) (key column : String) : Prop where
  resolved : ∃ attr, table.resolve? key = some (key, attr) ∧ attr.columnName = some column ∧
    table.resolve? column = some (key, attr)
  unreserved : CriteriaKey.ofText column = .column column
  notOperator : Operator.isKey column = false

/-- The same key, or the column that it stands for. -/
def Spells (table : Table) (key other : String) : Prop :=
  other = key ∨ table.Respells key other

theorem Spells.resolve? {table : Table} {key other : String} (spells : table.Spells key other) :
    (∃ entry, table.resolve? other = some entry ∧ table.resolve? key = some entry) ∨
      other = key := by
  rcases spells with same | respells
  · exact .inr same
  · obtain ⟨attr, isKey, _, isColumn⟩ := respells.resolved
    exact .inl ⟨(key, attr), isColumn, isKey⟩

theorem Spells.column_eq {table : Table} {key other : String} (spells : table.Spells key other) :
    table.column other = table.column key := by
  rcases spells.resolve? with ⟨entry, isColumn, isKey⟩ | rfl
  · rw [column, column, isColumn, isKey]
  · rfl

end Table

namespace Scope

variable {scope : Scope} {key other : String}

theorem column_eq (spells : scope.table.Spells key other) :
    scope.column other = scope.column key := by
  rcases spells.resolve? with ⟨entry, isColumn, isKey⟩ | rfl
  · rw [column, column, isColumn, isKey]
  · rfl

theorem listValues_respelled {items : List Filter} {values : List Value} (other : String)
    (listed : listValues key items = .ok values) : listValues other items = .ok values := by
  induction items generalizing values with
  | nil => exact listed
  | cons item rest ih =>
      cases item with
      | value value =>
          obtain ⟨following, listedRest, rfl⟩ := exists_of_map_eq_ok listed
          rw [listValues, ih listedRest]
          rfl
      | list items => cases listed
      | object entries => cases listed

theorem equality_respelled (spells : scope.table.Spells key other) (value : Value) :
    scope.equality other value = scope.equality key value := by
  rw [equality, equality, column_eq spells]

theorem membership_respelled (spells : scope.table.Spells key other) {negated : Bool}
    {items : List Filter} {predicate : Predicate}
    (expanded : scope.membership key negated items = .ok predicate) :
    scope.membership other negated items = .ok predicate := by
  obtain ⟨values, listed, rfl⟩ := exists_of_map_eq_ok expanded
  rw [membership, listValues_respelled other listed, column_eq spells]
  rfl

theorem textMatch_respelled (spells : scope.table.Spells key other) {spelling : String}
    {kind : TextMatch} {value : Value} {predicate : Predicate}
    (expanded : scope.textMatch key spelling kind value = .ok predicate) :
    scope.textMatch other spelling kind value = .ok predicate := by
  rw [textMatch] at expanded ⊢
  split at expanded
  · cases expanded
  · rename_i notNull
    rw [if_neg notNull, column_eq spells]
    exact expanded

theorem operation_respelled (spells : scope.table.Spells key other) {spelling : String}
    {operator : Operator} {operand : Filter} {predicate : Predicate}
    (expanded : scope.operation key spelling operator operand = .ok predicate) :
    scope.operation other spelling operator operand = .ok predicate := by
  cases operand with
  | value value =>
      cases operator with
      | compare comparison => rwa [operation, column_eq spells]
      | not => rwa [operation, column_eq spells]
      | textMatch kind => exact textMatch_respelled spells expanded
  | list items =>
      rw [operation] at expanded ⊢
      split at expanded
      · rename_i isNot
        rw [if_pos isNot]
        exact membership_respelled spells expanded
      · cases expanded
  | object entries => cases expanded

theorem operations_respelled (spells : scope.table.Spells key other) {entries : Criteria}
    {predicates : List Predicate} (expanded : scope.operations key entries = .ok predicates) :
    scope.operations other entries = .ok predicates := by
  induction entries generalizing predicates with
  | nil => exact expanded
  | cons entry rest ih =>
      obtain ⟨spelling, operand⟩ := entry
      rw [operations] at expanded ⊢
      split at expanded
      · cases expanded
      · obtain ⟨predicate, compared, following⟩ := exists_of_bind_eq_ok expanded
        obtain ⟨others, expandedRest, rfl⟩ := exists_of_map_eq_ok following
        rw [operation_respelled spells compared, ih expandedRest]
        rfl

def PatternsRespelled (scope : Scope) : Criteria → Criteria → Prop :=
  List.Forall₂ fun entry entry' =>
    scope.table.Spells entry.1 entry'.1 ∧ entry'.2 = entry.2

theorem patterns_respelled {entries entries' : Criteria}
    (respelled : scope.PatternsRespelled entries entries') {predicates : List Predicate}
    (expanded : scope.patterns entries = .ok predicates) :
    scope.patterns entries' = .ok predicates := by
  induction respelled generalizing predicates with
  | nil => exact expanded
  | @cons entry entry' rest rest' first others ih =>
      obtain ⟨key, pattern⟩ := entry
      obtain ⟨other, pattern'⟩ := entry'
      obtain ⟨spells, same⟩ := first
      obtain rfl : pattern = pattern' := same.symm
      cases pattern with
      | value value =>
          obtain ⟨predicate, matched, following⟩ := exists_of_bind_eq_ok expanded
          obtain ⟨others, expandedRest, rfl⟩ := exists_of_map_eq_ok following
          rw [patterns, textMatch_respelled spells matched, ih expandedRest]
          rfl
      | list items => cases expanded
      | object entries => cases expanded

/-- The filter is known under the same name by either key, or it puts no condition on the columns of
its own table. -/
def KeepsName (scope : Scope) (key other : String) (related : Table) (entries : Criteria) : Prop :=
  scope.associationQualifier other = scope.associationQualifier key ∨
    ∀ leaf ∈ (scope.enter key related).leaves entries, leaf.path = [] →
      leaf.condition.column? = none

mutual

/-- The second criteria spell attributes of the table in scope as their columns where the first name
them, at any depth.  If `kept` holds, each filter on an association keeps its name. -/
inductive Respelled (kept : Prop) : Scope → Criteria → Criteria → Prop
  | nil (scope : Scope) : Respelled kept scope [] []
  | cons {scope : Scope} {entry entry' : String × Filter} {rest rest' : Criteria}
      (first : EntryRespelled kept scope entry entry') (others : Respelled kept scope rest rest') :
      Respelled kept scope (entry :: rest) (entry' :: rest')

inductive EntryRespelled (kept : Prop) : Scope → String × Filter → String × Filter → Prop
  | same (scope : Scope) (entry : String × Filter) : EntryRespelled kept scope entry entry
  /-- An entry at fault stands behind an alternative that ends its group, if criteria compile. -/
  | fault {scope : Scope} {entry : String × Filter} (entry' : String × Filter)
      (fails : ∀ predicate, scope.expand entry.1 entry.2 ≠ .ok predicate) :
      EntryRespelled kept scope entry entry'
  | column {scope : Scope} {key other : String} {filter : Filter}
      (isColumn : CriteriaKey.ofText key = .column key)
      (noFilter : ∀ entries, filter = .object entries → scope.associated key entries = .ok none)
      (respells : scope.table.Respells key other) :
      EntryRespelled kept scope (key, filter) (other, filter)
  | association {scope : Scope} {key other : String} {related : Table} {entries entries' : Criteria}
      (isColumn : CriteriaKey.ofText key = .column key)
      (isFilter : scope.associated key entries = .ok (some related))
      (spells : scope.table.Spells key other)
      (inside : Respelled kept (scope.enter key related) entries entries')
      (keeps : kept → scope.KeepsName key other related entries') :
      EntryRespelled kept scope (key, .object entries) (other, .object entries')
  | patterns {scope : Scope} {key : String} {entries entries' : Criteria}
      (arePatterns : CriteriaKey.ofText key = .patterns)
      (respelled : scope.PatternsRespelled entries entries') :
      EntryRespelled kept scope (key, .object entries) (key, .object entries')
  | group {scope : Scope} {key : String} {connective : Connective} {items items' : List Filter}
      (isGroup : CriteriaKey.ofText key = .group connective)
      (elements : ElementsRespelled kept scope items items') :
      EntryRespelled kept scope (key, .list items) (key, .list items')

inductive ElementsRespelled (kept : Prop) : Scope → List Filter → List Filter → Prop
  | nil (scope : Scope) : ElementsRespelled kept scope [] []
  | object {scope : Scope} {entries entries' : Criteria} {rest rest' : List Filter}
      (first : Respelled kept scope entries entries')
      (others : ElementsRespelled kept scope rest rest') :
      ElementsRespelled kept scope (.object entries :: rest) (.object entries' :: rest')
  | fault {scope : Scope} {item : Filter} {rest rest' : List Filter} (item' : Filter)
      (notObject : item.isObject = false) (others : ElementsRespelled kept scope rest rest') :
      ElementsRespelled kept scope (item :: rest) (item' :: rest')

end

variable {kept : Prop}

theorem ElementsRespelled.isEmpty {items items' : List Filter}
    (respelled : ElementsRespelled kept scope items items') : items'.isEmpty = items.isEmpty := by
  cases respelled <;> rfl

theorem EntryRespelled.notOperator {entry entry' : String × Filter} {predicate : Option Predicate}
    (respelled : EntryRespelled kept scope entry entry')
    (expanded : scope.expand entry.1 entry.2 = .ok predicate) :
    (Operator.isKey entry'.1 → Operator.isKey entry.1) ∧ entry'.2.isObject = entry.2.isObject := by
  have ofSpells {key other : String} (spells : scope.table.Spells key other)
      (isOperator : Operator.isKey other) : Operator.isKey key := by
    rcases spells with rfl | respells
    · exact isOperator
    · rw [respells.notOperator] at isOperator
      cases isOperator
  cases respelled with
  | same => exact ⟨id, rfl⟩
  | fault _ fails => exact absurd expanded (fails predicate)
  | column isColumn noFilter respells => exact ⟨ofSpells (.inr respells), rfl⟩
  | association isColumn isFilter spells inside keeps => exact ⟨ofSpells spells, rfl⟩
  | patterns arePatterns respelled => exact ⟨id, rfl⟩
  | group isGroup elements => exact ⟨id, rfl⟩

theorem Respelled.notOperators {criteria criteria' : Criteria} {predicates : List Predicate}
    (respelled : Respelled kept scope criteria criteria')
    (expanded : scope.expandAll criteria = .ok predicates) :
    ((criteria'.all fun entry => Operator.isKey entry.1) →
        criteria.all fun entry => Operator.isKey entry.1) ∧
      ((criteria'.any fun entry => Operator.isKey entry.1 && !entry.2.isObject) →
        criteria.any fun entry => Operator.isKey entry.1 && !entry.2.isObject) := by
  induction criteria generalizing criteria' predicates with
  | nil =>
      cases respelled
      exact ⟨id, id⟩
  | cons entry rest ih =>
      cases respelled with
      | @cons _ _ entry' _ rest' first others =>
          obtain ⟨predicate, expandedFirst, following⟩ := exists_of_bind_eq_ok expanded
          obtain ⟨rests, expandedRest, _⟩ := exists_of_map_eq_ok following
          obtain ⟨all, any⟩ := ih others expandedRest
          obtain ⟨isOperator, sameShape⟩ := first.notOperator expandedFirst
          simp only [List.all_cons, List.any_cons, Bool.and_eq_true, Bool.or_eq_true, sameShape]
          exact ⟨And.imp isOperator all, Or.imp (And.imp_left isOperator) any⟩

theorem associated_eq_some_iff {entries : Criteria} {related : Table} :
    scope.associated key entries = .ok (some related) ↔
      (entries.all fun entry => Operator.isKey entry.1) = false ∧
        (entries.any fun entry => Operator.isKey entry.1 && !entry.2.isObject) = false ∧
        ∃ target,
          ((scope.table.resolve? key).bind fun entry => entry.2.relatedTable?) = some target ∧
            scope.schema.require target = .ok related := by
  rw [associated]
  cases operators : entries.all fun entry => Operator.isKey entry.1 with
  | true => simp
  | false =>
      rw [if_neg Bool.false_ne_true]
      cases (scope.table.resolve? key).bind fun entry => entry.2.relatedTable? with
      | none => simp
      | some target =>
          cases found : entries.find? fun entry => Operator.isKey entry.1 && !entry.2.isObject with
          | some entry =>
              have isAny : (entries.any fun entry =>
                  Operator.isKey entry.1 && !entry.2.isObject) = true :=
                List.any_eq_true.mpr
                  ⟨entry, List.mem_of_find?_eq_some found, by simpa using List.find?_some found⟩
              simp [isAny]
          | none =>
              have isNone : (entries.any fun entry =>
                  Operator.isKey entry.1 && !entry.2.isObject) = false :=
                List.any_eq_false.mpr (List.find?_eq_none.mp found)
              simp only [isNone, true_and, Option.some.injEq, exists_eq_left']
              cases scope.schema.require target <;> simp [Except.map]

theorem associated_respelled {entries entries' : Criteria} {related : Table}
    {predicates : List Predicate} (spells : scope.table.Spells key other)
    (inside : Respelled kept (scope.enter key related) entries entries')
    (expanded : (scope.enter key related).expandAll entries = .ok predicates)
    (isFilter : scope.associated key entries = .ok (some related)) :
    scope.associated other entries' = .ok (some related) := by
  obtain ⟨attributes, operators, target, isTarget, required⟩ := associated_eq_some_iff.mp isFilter
  obtain ⟨all, any⟩ := inside.notOperators expanded
  refine associated_eq_some_iff.mpr ⟨?_, ?_, target, ?_, required⟩
  · rw [Bool.eq_false_iff] at attributes ⊢
    exact mt all attributes
  · rw [Bool.eq_false_iff] at operators ⊢
    exact mt any operators
  · rcases spells.resolve? with ⟨entry, isColumn, isKey⟩ | rfl
    · rwa [isColumn, ← isKey]
    · exact isTarget

theorem associated_eq_none_of_respelled {entries : Criteria} (spells : scope.table.Spells key other)
    (noFilter : scope.associated key entries = .ok none) :
    scope.associated other entries = .ok none := by
  rcases spells.resolve? with ⟨entry, isColumn, isKey⟩ | rfl
  · rw [associated, isKey] at noFilter
    rw [associated, isColumn]
    by_cases operators : entries.all fun entry => Operator.isKey entry.1
    · rw [if_pos operators]
    · rw [if_neg operators] at noFilter ⊢
      split at noFilter
      · rfl
      · split at noFilter
        · cases noFilter
        · obtain ⟨table, _, isTable⟩ := exists_of_map_eq_ok noFilter
          cases isTable
  · exact noFilter

theorem KeepsName.agreesOn {related : Table} {entries : Criteria}
    (keeps : scope.KeepsName key other related entries) :
    AgreesOn id (scope.enter key related) (scope.enter other related)
      ((scope.enter key related).leaves entries) := by
  intro leaf member onColumn
  cases inFilter : leaf.path with
  | nil =>
      rcases keeps with sameName | noColumn
      · exact sameName
      · rw [noColumn leaf member inFilter] at onColumn
        cases onColumn
  | cons next path => rw [← qualifierAt_cons, ← qualifierAt_cons]; rfl

theorem ofText_respelled (spells : scope.table.Spells key other)
    (isColumn : CriteriaKey.ofText key = .column key) :
    CriteriaKey.ofText other = .column other := by
  rcases spells with rfl | respells
  · exact isColumn
  · exact respells.unreserved

theorem expand_respelled_column {filter : Filter} (isColumn : CriteriaKey.ofText key = .column key)
    (noFilter : ∀ entries, filter = .object entries → scope.associated key entries = .ok none)
    (spells : scope.table.Spells key other) {predicate : Option Predicate}
    (expanded : scope.expand key filter = .ok predicate) :
    scope.expand other filter = .ok predicate := by
  have isColumn' := ofText_respelled spells isColumn
  cases filter with
  | value value =>
      rw [expand, isColumn] at expanded
      rw [expand, isColumn']
      dsimp only at expanded ⊢
      rw [equality_respelled spells, expanded]
  | list items =>
      rw [expand, isColumn] at expanded
      rw [expand, isColumn']
      obtain ⟨single, listed, rfl⟩ := exists_of_map_eq_ok expanded
      dsimp only
      rw [membership_respelled spells listed]
      rfl
  | object entries =>
      have none := noFilter entries rfl
      rw [expand, isColumn] at expanded
      rw [expand, isColumn']
      dsimp only at expanded ⊢
      rw [none] at expanded
      rw [associated_eq_none_of_respelled spells none]
      obtain ⟨predicates, compared, rfl⟩ := exists_of_map_eq_ok expanded
      show (scope.operations other entries).map every? = _
      rw [operations_respelled spells compared]
      rfl

theorem expand_respelled_association {seen : String → String} {related : Table}
    {entries entries' : Criteria} (told : kept ∨ ∀ name name', seen name = seen name')
    (isColumn : CriteriaKey.ofText key = .column key)
    (isFilter : scope.associated key entries = .ok (some related))
    (spells : scope.table.Spells key other)
    (inside : Respelled kept (scope.enter key related) entries entries')
    (keeps : kept → scope.KeepsName key other related entries')
    {predicates predicates' : List Predicate}
    (expanded : (scope.enter key related).expandAll entries = .ok predicates)
    (expanded' : (scope.enter key related).expandAll entries' = .ok predicates')
    (same : predicates'.map (Predicate.requalified seen) =
      predicates.map (Predicate.requalified seen)) :
    ∃ predicate', scope.expand other (.object entries') = .ok predicate' ∧
      predicate'.map (Predicate.requalified seen) =
        (every? predicates).map (Predicate.requalified seen) := by
  have agrees : AgreesOn seen (scope.enter key related) (scope.enter other related)
      ((scope.enter key related).leaves entries') := by
    rcases told with isKept | single
    · exact fun leaf member onColumn =>
        congrArg seen ((keeps isKept).agreesOn leaf member onColumn)
    · exact fun leaf member onColumn => single _ _
  have renamed := @requalified_expandAll seen (scope.enter key related)
    (scope.enter other related) ⟨rfl, rfl⟩ entries' agrees
  rw [expanded'] at renamed
  obtain ⟨others, expandedOther, sameOther⟩ := exists_of_map_eq_ok renamed
  refine ⟨every? others, ?_, ?_⟩
  · rw [expand_associated (ofText_respelled spells isColumn)
      (associated_respelled spells inside expanded isFilter), expandedOther]
    rfl
  · rw [requalified_every?, requalified_every?, sameOther, same]

mutual

/-- Respelled criteria expand whenever the others do, to predicates that differ at most in
qualifiers.  Where names are kept or all are seen alike, not even in those. -/
theorem expandAll_respelled (seen : String → String)
    (told : kept ∨ ∀ name name', seen name = seen name') (scope : Scope)
    (criteria : List (String × Filter)) (criteria' : Criteria)
    (respelled : Respelled kept scope criteria criteria') (predicates : List Predicate)
    (expanded : scope.expandAll criteria = .ok predicates) :
    ∃ predicates', scope.expandAll criteria' = .ok predicates' ∧
      predicates'.map (Predicate.requalified seen) =
        predicates.map (Predicate.requalified seen) := by
  cases criteria with
  | nil =>
      cases respelled with
      | nil => exact ⟨predicates, expanded, rfl⟩
  | cons entry rest =>
      obtain ⟨key, filter⟩ := entry
      cases respelled with
      | @cons _ _ entry' _ rest' first others =>
          obtain ⟨predicate, expandedFirst, following⟩ := exists_of_bind_eq_ok expanded
          obtain ⟨rests, expandedRest, rfl⟩ := exists_of_map_eq_ok following
          obtain ⟨predicate', expandedFirst', sameFirst⟩ :=
            expand_respelled seen told scope key filter entry' first predicate expandedFirst
          obtain ⟨rests', expandedRest', sameRest⟩ :=
            expandAll_respelled seen told scope rest rest' others rests expandedRest
          refine ⟨predicate'.toList ++ rests', ?_, map_toList_append_congr sameFirst sameRest⟩
          rw [expandAll, expandedFirst', expandedRest']
          rfl
termination_by structural criteria

theorem expand_respelled (seen : String → String)
    (told : kept ∨ ∀ name name', seen name = seen name') (scope : Scope) (key : String)
    (filter : Filter) (entry' : String × Filter)
    (respelled : EntryRespelled kept scope (key, filter) entry') (predicate : Option Predicate)
    (expanded : scope.expand key filter = .ok predicate) :
    ∃ predicate', scope.expand entry'.1 entry'.2 = .ok predicate' ∧
      predicate'.map (Predicate.requalified seen) =
        predicate.map (Predicate.requalified seen) := by
  cases filter with
  | value value =>
      cases respelled with
      | same => exact ⟨predicate, expanded, rfl⟩
      | fault _ fails => exact absurd expanded (fails predicate)
      | column isColumn noFilter respells =>
          exact ⟨predicate, expand_respelled_column isColumn noFilter (.inr respells) expanded, rfl⟩
  | list items =>
      cases respelled with
      | same => exact ⟨predicate, expanded, rfl⟩
      | fault _ fails => exact absurd expanded (fails predicate)
      | column isColumn noFilter respells =>
          exact ⟨predicate, expand_respelled_column isColumn noFilter (.inr respells) expanded, rfl⟩
      | @group _ _ connective _ items' isGroup elements =>
          rw [expand, isGroup] at expanded
          dsimp only at expanded ⊢
          rw [expand, isGroup]
          dsimp only
          rw [elements.isEmpty]
          split at expanded
          · cases expanded
          · obtain ⟨parts, expandedParts, rfl⟩ := exists_of_map_eq_ok expanded
            obtain ⟨parts', expandedParts', sameParts⟩ :=
              expandElements_respelled seen told scope connective items items' elements parts
                expandedParts
            rw [if_neg ‹_›, expandedParts']
            refine ⟨_, rfl, ?_⟩
            rw [requalified_grouped, requalified_grouped, sameParts]
  | object entries =>
      cases respelled with
      | same => exact ⟨predicate, expanded, rfl⟩
      | fault _ fails => exact absurd expanded (fails predicate)
      | column isColumn noFilter respells =>
          exact ⟨predicate, expand_respelled_column isColumn noFilter (.inr respells) expanded, rfl⟩
      | @association _ _ other related _ entries' isColumn isFilter spells inside keeps =>
          rw [expand_associated isColumn isFilter] at expanded
          obtain ⟨predicates, expandedInside, rfl⟩ := exists_of_map_eq_ok expanded
          obtain ⟨predicates', expandedInside', sameInside⟩ :=
            expandAll_respelled seen told (scope.enter key related) entries entries' inside
              predicates expandedInside
          exact expand_respelled_association told isColumn isFilter spells inside keeps
            expandedInside expandedInside' sameInside
      | @patterns _ _ _ entries' arePatterns respelled =>
          rw [expand, arePatterns] at expanded
          obtain ⟨predicates, matched, rfl⟩ := exists_of_map_eq_ok expanded
          refine ⟨every? predicates, ?_, rfl⟩
          dsimp only
          rw [expand, arePatterns]
          dsimp only
          rw [patterns_respelled respelled matched]
          rfl
termination_by structural filter

theorem expandElements_respelled (seen : String → String)
    (told : kept ∨ ∀ name name', seen name = seen name') (scope : Scope) (connective : Connective)
    (items items' : List Filter) (respelled : ElementsRespelled kept scope items items')
    (elements : Option (List (List Predicate)))
    (expanded : scope.expandElements connective items = .ok elements) :
    ∃ elements', scope.expandElements connective items' = .ok elements' ∧
      elements'.map (List.map (List.map (Predicate.requalified seen))) =
        elements.map (List.map (List.map (Predicate.requalified seen))) := by
  cases items with
  | nil =>
      cases respelled with
      | nil => exact ⟨elements, expanded, rfl⟩
  | cons item rest =>
      cases item with
      | value value => cases expanded
      | list items => cases expanded
      | object entries =>
          cases respelled with
          | fault _ notObject => cases notObject
          | @object _ _ entries' _ rest' first others =>
              rw [expandElements] at expanded ⊢
              obtain ⟨parts, expandedFirst, following⟩ := exists_of_bind_eq_ok expanded
              obtain ⟨parts', expandedFirst', sameFirst⟩ :=
                expandAll_respelled seen told scope entries entries' first parts expandedFirst
              rw [expandedFirst']
              show ∃ elements', (if parts'.isEmpty then _ else _) = _ ∧ _
              rw [isEmpty_eq_of_map_eq sameFirst]
              split at following
              · rename_i free
                rw [if_pos free]
                split at following
                · rename_i isDisjunction
                  rw [if_pos isDisjunction]
                  exact ⟨elements, following, rfl⟩
                · rename_i notDisjunction
                  rw [if_neg notDisjunction]
                  exact expandElements_respelled seen told scope connective rest rest' others
                    elements following
              · rename_i constrains
                rw [if_neg constrains]
                obtain ⟨inRest, expandedRest, rfl⟩ := exists_of_map_eq_ok following
                obtain ⟨inRest', expandedRest', sameRest⟩ :=
                  expandElements_respelled seen told scope connective rest rest' others inRest
                    expandedRest
                rw [expandedRest']
                refine ⟨_, rfl, ?_⟩
                rw [Predicate.map_view_cons, Predicate.map_view_cons, sameFirst, sameRest]
termination_by structural items

end

end Scope

end QuerySql
