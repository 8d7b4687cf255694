import QuerySql.Proofs.Predicate.View
import QuerySql.Proofs.Text.Case

namespace QuerySql

open Sql Sql.Fragment

namespace Value

@[simp] theorem lowercased_lowercased (value : Value) :
    value.lowercased.lowercased = value.lowercased := by
  cases value <;> simp [lowercased]

theorem lowercased_of_not_isString {value : Value} (noText : value.isString = false) :
    value.lowercased = value := by
  cases value <;> first | rfl | cases noText

end Value

namespace Column

def lowered (column : Column) (value : Value) : Value :=
  if column.foldsCase then value.lowercased else value

variable {dialect : Dialect} (column : Column)

@[simp] theorem isNull_lowered (value : Value) : (column.lowered value).isNull = value.isNull := by
  unfold lowered
  split
  · cases value <;> rfl
  · rfl

@[simp] theorem isString_lowered (value : Value) :
    (column.lowered value).isString = value.isString := by
  unfold lowered
  split
  · cases value <;> rfl
  · rfl

theorem any_isString_lowered (values : List Value) :
    (values.map column.lowered).any Value.isString = values.any Value.isString := by
  simp only [List.any_map, Function.comp_def, isString_lowered]

theorem lower_text_lowered (value : Value) :
    (if column.foldsCase then Text.lower (column.lowered value).text
        else (column.lowered value).text) =
      if column.foldsCase then Text.lower value.text else value.text := by
  unfold lowered
  split
  · cases value <;> simp [Value.lowercased, Value.text]
  · rfl

theorem operandFragment_lowered (folds : dialect.foldsCase) {comparesText : Bool} {value : Value}
    (compares : value.isString → comparesText) :
    operandFragment (column.isFolded dialect comparesText) (column.lowered value) =
      operandFragment (column.isFolded dialect comparesText) value := by
  rw [isFolded, folds, lowered, Bool.and_true]
  cases column.foldsCase with
  | false => rfl
  | true =>
      cases comparesText with
      | true => simp [operandFragment]
      | false =>
          have noText : value.isString = false := Bool.eq_false_iff.mpr fun isText =>
            Bool.false_ne_true (compares isText)
          simp [operandFragment, Value.lowercased_of_not_isString noText]

end Column

namespace Filter

def lowered (column : Column) : Filter → Filter
  | .value scalar => .value (column.lowered scalar)
  | filter => filter

def loweredOperand (column : Column) : Filter → Filter
  | .list items => .list (items.map (lowered column))
  | filter => filter.lowered column

end Filter

namespace Scope

mutual

/-- Criteria with the text that columns without regard to case are compared with in lower case. -/
def lowered (scope : Scope) : List (String × Filter) → List (String × Filter)
  | [] => []
  | (key, filter) :: rest => (key, loweredAt scope key filter) :: lowered scope rest
termination_by structural criteria => criteria

def loweredAt (scope : Scope) (key : String) : Filter → Filter
  | .value value =>
      match CriteriaKey.ofText key with
      | .column key => (Filter.value value).loweredOperand (scope.column key)
      | .group _ | .patterns => .value value
  | .list items =>
      match CriteriaKey.ofText key with
      | .group _ => .list (loweredElements scope items)
      | .column key => (Filter.list items).loweredOperand (scope.column key)
      | .patterns => .list items
  | .object entries =>
      match CriteriaKey.ofText key with
      | .patterns =>
          .object (entries.map fun entry => (entry.1, entry.2.lowered (scope.column entry.1)))
      | .column key =>
          match scope.associated key entries with
          | .ok (some table) => .object (lowered (scope.enter key table) entries)
          | _ =>
              .object (entries.map fun entry =>
                (entry.1, entry.2.loweredOperand (scope.column key)))
      | .group _ => .object entries
termination_by structural filter => filter

def loweredElements (scope : Scope) : List Filter → List Filter
  | [] => []
  | .object entries :: rest => .object (lowered scope entries) :: loweredElements scope rest
  | item :: rest => item :: loweredElements scope rest
termination_by structural elements => elements

end

end Scope

namespace Condition

variable {dialect : Dialect} (folds : dialect.foldsCase) (column : Column)

include folds

theorem fragments_compare_lowered (relation : Relation) (value : Value) :
    (Condition.compare column relation (column.lowered value)).fragments dialect =
      (Condition.compare column relation value).fragments dialect := by
  rw [fragments, fragments, Column.isString_lowered,
    column.operandFragment_lowered folds fun isText => isText]

theorem fragments_member_lowered (negated : Bool) (values : List Value) :
    (Condition.member column negated (values.map column.lowered)).fragments dialect =
      (Condition.member column negated values).fragments dialect := by
  have same : ∀ value ∈ values,
      [operandFragment (column.isFolded dialect (values.any Value.isString))
        (column.lowered value)] =
      [operandFragment (column.isFolded dialect (values.any Value.isString)) value] :=
    fun value member => congrArg ([·]) <|
      column.operandFragment_lowered folds fun isText => List.any_eq_true.mpr ⟨value, member, isText⟩
  rw [fragments, fragments, Column.any_isString_lowered, List.map_map]
  exact congrArg (fun operands => _ ++ .fixed _ :: separated "," operands ++ _)
    (List.map_congr_left same)

theorem fragments_textMatch_lowered (kind : TextMatch) (value : Value) :
    (Condition.textMatch column kind (column.lowered value).text).fragments dialect =
      (Condition.textMatch column kind value.text).fragments dialect := by
  have isFolded : column.isFolded dialect true = column.foldsCase := by
    rw [Column.isFolded, folds, Bool.and_true, Bool.true_and]
  rw [fragments, fragments, isFolded, column.lower_text_lowered]

end Condition

namespace Filter

@[simp] theorem loweredOperand_value (column : Column) (scalar : Value) :
    (Filter.value scalar).loweredOperand column = .value (column.lowered scalar) := rfl

theorem isObject_loweredOperand (column : Column) (filter : Filter) :
    (filter.loweredOperand column).isObject = filter.isObject := by
  cases filter <;> rfl

end Filter

namespace Scope

variable {dialect : Dialect} {scope : Scope} {key : String}

theorem listValues_lowered (column : Column) (items : List Filter) :
    listValues key (items.map (Filter.lowered column)) =
      (listValues key items).map (List.map column.lowered) := by
  induction items with
  | nil => rfl
  | cons item rest ih =>
      cases item with
      | value value =>
          rw [List.map_cons, Filter.lowered, listValues, listValues, ih]
          cases listValues key rest <;> rfl
      | list items => rfl
      | object entries => rfl

section Folding

variable (folds : dialect.foldsCase)

include folds

theorem fragments_equality_lowered (value : Value) :
    (scope.equality key ((scope.column key).lowered value)).fragments dialect =
      (scope.equality key value).fragments dialect := by
  rw [equality, equality, Column.isNull_lowered]
  split
  · rfl
  · exact Condition.fragments_compare_lowered folds _ .equal value

theorem fragments_membership_lowered (negated : Bool) (items : List Filter) :
    (scope.membership key negated (items.map (Filter.lowered (scope.column key)))).map
        (Predicate.fragments dialect) =
      (scope.membership key negated items).map (Predicate.fragments dialect) := by
  rw [membership, membership, listValues_lowered]
  cases listValues key items with
  | error error => rfl
  | ok values =>
      refine congrArg Except.ok ?_
      simp only [List.isEmpty_map]
      split
      · rfl
      · exact Condition.fragments_member_lowered folds _ negated values

theorem fragments_textMatch_lowered (spelling : String) (kind : TextMatch) (value : Value) :
    (scope.textMatch key spelling kind ((scope.column key).lowered value)).map
        (Predicate.fragments dialect) =
      (scope.textMatch key spelling kind value).map (Predicate.fragments dialect) := by
  rw [textMatch, textMatch, Column.isNull_lowered]
  split
  · rfl
  · exact congrArg Except.ok (Condition.fragments_textMatch_lowered folds _ kind value)

theorem fragments_operation_lowered (spelling : String) (operator : Operator) (operand : Filter) :
    (scope.operation key spelling operator (operand.loweredOperand (scope.column key))).map
        (Predicate.fragments dialect) =
      (scope.operation key spelling operator operand).map (Predicate.fragments dialect) := by
  cases operand with
  | value value =>
      cases operator with
      | compare comparison =>
          exact congrArg Except.ok
            (Condition.fragments_compare_lowered folds _ (.order comparison) value)
      | not =>
          rw [Filter.loweredOperand_value, operation, operation, Column.isNull_lowered]
          split
          · rfl
          · exact congrArg Except.ok (Condition.fragments_compare_lowered folds _ .notEqual value)
      | textMatch kind => exact fragments_textMatch_lowered folds spelling kind value
  | list items =>
      rw [Filter.loweredOperand, operation, operation]
      split
      · exact fragments_membership_lowered folds true items
      · rfl
  | object entries => rfl

theorem fragments_operations_lowered (entries : Criteria) :
    (scope.operations key (entries.map fun entry =>
        (entry.1, entry.2.loweredOperand (scope.column key)))).map
        (List.map (Predicate.fragments dialect)) =
      (scope.operations key entries).map (List.map (Predicate.fragments dialect)) := by
  induction entries with
  | nil => rfl
  | cons entry rest ih =>
      obtain ⟨spelling, operand⟩ := entry
      rw [List.map_cons, operations, operations]
      dsimp only
      cases Operator.ofKey? spelling with
      | none => rfl
      | some operator =>
          apply map_bind_congr (fragments_operation_lowered folds spelling operator operand)
          intro predicate predicate' samePredicate
          apply map_map_congr ih
          intro others others' sameOthers
          rw [List.map_cons, List.map_cons, samePredicate, sameOthers]

theorem fragments_patterns_lowered (entries : Criteria) :
    (scope.patterns (entries.map fun entry =>
        (entry.1, entry.2.lowered (scope.column entry.1)))).map
        (List.map (Predicate.fragments dialect)) =
      (scope.patterns entries).map (List.map (Predicate.fragments dialect)) := by
  induction entries with
  | nil => rfl
  | cons entry rest ih =>
      obtain ⟨key, pattern⟩ := entry
      cases pattern with
      | value value =>
          rw [List.map_cons, Filter.lowered, patterns, patterns]
          apply map_bind_congr (fragments_textMatch_lowered folds "like" .like value)
          intro predicate predicate' samePredicate
          apply map_map_congr ih
          intro others others' sameOthers
          rw [List.map_cons, List.map_cons, samePredicate, sameOthers]
      | list items => rfl
      | object entries => rfl

end Folding

theorem isEmpty_loweredElements (items : List Filter) :
    (scope.loweredElements items).isEmpty = items.isEmpty := by
  cases items with
  | nil => rfl
  | cons item rest => cases item <;> rfl

theorem isObject_loweredAt (filter : Filter) :
    (scope.loweredAt key filter).isObject = filter.isObject := by
  cases filter with
  | value value => rw [loweredAt]; split <;> rfl
  | list items => rw [loweredAt]; split <;> rfl
  | object entries =>
      rw [loweredAt]
      split
      · rfl
      · split <;> rfl
      · rfl

theorem associated_lowered {inner : Scope} (entries : Criteria) :
    scope.associated key (inner.lowered entries) = scope.associated key entries := by
  refine associated_congr ?_
  induction entries with
  | nil => rfl
  | cons entry rest ih =>
      obtain ⟨key, filter⟩ := entry
      rw [lowered, List.map_cons, List.map_cons, ih, isObject_loweredAt]

theorem associated_loweredOperand {column : Column} (entries : Criteria) :
    scope.associated key (entries.map fun entry => (entry.1, entry.2.loweredOperand column)) =
      scope.associated key entries := by
  refine associated_congr ?_
  simp only [List.map_map, Function.comp_def, Filter.isObject_loweredOperand]

theorem fragments_expand_column_lowered (folds : dialect.foldsCase) {column : String}
    (kind : CriteriaKey.ofText key = .column column) {entries : Criteria}
    (related : ∀ table,
      ((scope.enter column table).expandAll ((scope.enter column table).lowered entries)).map
          (List.map (Predicate.fragments dialect)) =
        ((scope.enter column table).expandAll entries).map
          (List.map (Predicate.fragments dialect))) :
    (scope.expand key (scope.loweredAt key (.object entries))).map
        (Option.map (Predicate.fragments dialect)) =
      (scope.expand key (.object entries)).map (Option.map (Predicate.fragments dialect)) := by
  have compositional := Predicate.compositional_fragments dialect
  rw [loweredAt, kind]
  dsimp only
  cases association : scope.associated column entries with
  | error error =>
      dsimp only
      rw [expand, expand, kind]
      dsimp only
      rw [associated_loweredOperand, association]
      rfl
  | ok found =>
      cases found with
      | some table =>
          dsimp only
          rw [expand, expand, kind]
          dsimp only
          rw [associated_lowered, association]
          apply map_map_congr (related table)
          intro predicates predicates' same
          exact compositional.every? same
      | none =>
          dsimp only
          rw [expand, expand, kind]
          dsimp only
          rw [associated_loweredOperand, association]
          apply map_map_congr (fragments_operations_lowered folds entries)
          intro predicates predicates' same
          exact compositional.every? same

mutual

/-- Where case is folded, criteria in lower case are written like the criteria themselves. -/
theorem fragments_expandAll_lowered (folds : dialect.foldsCase) (scope : Scope)
    (criteria : List (String × Filter)) :
    (scope.expandAll (scope.lowered criteria)).map (List.map (Predicate.fragments dialect)) =
      (scope.expandAll criteria).map (List.map (Predicate.fragments dialect)) := by
  cases criteria with
  | nil => rfl
  | cons entry rest =>
      obtain ⟨key, filter⟩ := entry
      rw [lowered, expandAll, expandAll]
      apply map_bind_congr (fragments_expand_lowered folds scope key filter)
      intro predicate predicate' same
      apply map_map_congr (fragments_expandAll_lowered folds scope rest)
      intro others others' sameOthers
      exact map_toList_append_congr same sameOthers
termination_by structural criteria

theorem fragments_expand_lowered (folds : dialect.foldsCase) (scope : Scope) (key : String)
    (filter : Filter) :
    (scope.expand key (scope.loweredAt key filter)).map
        (Option.map (Predicate.fragments dialect)) =
      (scope.expand key filter).map (Option.map (Predicate.fragments dialect)) := by
  have compositional := Predicate.compositional_fragments dialect
  cases filter with
  | value value =>
      rw [loweredAt]
      cases kind : CriteriaKey.ofText key with
      | group connective => rfl
      | patterns => rfl
      | column key' =>
          dsimp only
          rw [Filter.loweredOperand_value, expand, expand, kind]
          exact congrArg (fun part => Except.ok (some part))
            (fragments_equality_lowered folds value)
  | list items =>
      rw [loweredAt]
      cases kind : CriteriaKey.ofText key with
      | group connective =>
          dsimp only
          rw [expand, expand, kind, isEmpty_loweredElements]
          dsimp only
          split
          · rfl
          · apply map_map_congr (fragments_expandElements_lowered folds scope connective items)
            intro elements elements' same
            exact compositional.grouped same
      | patterns => rfl
      | column key' =>
          dsimp only
          rw [Filter.loweredOperand, expand, expand, kind]
          apply map_map_congr (fragments_membership_lowered folds false items)
          intro predicate predicate' same
          exact congrArg some same
  | object entries =>
      cases kind : CriteriaKey.ofText key with
      | group connective => rw [loweredAt, kind]
      | patterns =>
          rw [loweredAt, kind, expand, expand, kind]
          apply map_map_congr (fragments_patterns_lowered folds entries)
          intro predicates predicates' same
          exact compositional.every? same
      | column key' =>
          exact fragments_expand_column_lowered folds kind fun table =>
            fragments_expandAll_lowered folds (scope.enter key' table) entries
termination_by structural filter

theorem fragments_expandElements_lowered (folds : dialect.foldsCase) (scope : Scope)
    (connective : Connective) (items : List Filter) :
    (scope.expandElements connective (scope.loweredElements items)).map
        (Option.map (List.map (List.map (Predicate.fragments dialect)))) =
      (scope.expandElements connective items).map
        (Option.map (List.map (List.map (Predicate.fragments dialect)))) := by
  cases items with
  | nil => rfl
  | cons item rest =>
      cases item with
      | value value => rfl
      | list items => rfl
      | object entries =>
          rw [loweredElements, expandElements, expandElements]
          apply map_bind_congr (fragments_expandAll_lowered folds scope entries)
          intro parts parts' same
          rw [isEmpty_eq_of_map_eq same]
          split
          · split
            · rfl
            · exact fragments_expandElements_lowered folds scope connective rest
          · apply map_map_congr (fragments_expandElements_lowered folds scope connective rest)
            intro elements elements' sameElements
            rw [Predicate.map_view_cons, Predicate.map_view_cons, same, sameElements]
termination_by structural items

end

end Scope

end QuerySql
