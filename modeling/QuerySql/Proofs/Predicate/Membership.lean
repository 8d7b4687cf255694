import QuerySql.Proofs.Predicate.Reading
import QuerySql.Proofs.Sql.Like
import QuerySql.Proofs.Sql.Truth

namespace QuerySql

open Sql

variable {Content : Type} (dialect : Dialect) (engine : Engine Content) (row : Row Content)

theorem Value.isNull_iff {value : Value} : value.isNull = true ↔ value = .null := by
  cases value <;> simp [isNull]

@[simp] theorem Value.isNull_compared (folded : Bool) (value : Value) :
    (value.compared folded).isNull = value.isNull := by
  cases folded <;> cases value <;> rfl

@[simp] theorem Value.compared_null (folded : Bool) : Value.null.compared folded = .null := by
  cases folded <;> rfl

namespace Condition

def truth (condition : Condition) : Truth :=
  (condition.atom dialect 1).truth engine row (condition.operands dialect)

end Condition

namespace Predicate

/-- What a predicate says of a row, if it can be read.  It is read from its text, as it stands where
values are bound and names are in double quotes. -/
def truth? (predicate : Predicate) : Option Truth :=
  let emitted := Fragment.emitAll { dialect with parameterized := true, quote := '"' } {}
    (predicate.fragments dialect)
  (Formula.ofText? emitted.1).map (Formula.truth engine row emitted.2.values)

/-- A well-formed predicate is true of a row if its meaning holds of what is true of the row. -/
theorem WellFormed.truth? {predicate : Predicate} (wellFormed : predicate.WellFormed) :
    ∃ truth, predicate.truth? dialect engine row = some truth ∧
      (truth = .yes ↔ (predicate.meaning dialect).holds (fun condition =>
        condition.truth engine row (predicate.meaning dialect).operands = .yes) 1 = true) := by
  let reading : Dialect := { dialect with parameterized := true, quote := '"' }
  have written := wellFormed.writtenAs dialect
  have lexes := @Token.ofText?_emitAll reading _ rfl rfl (predicate.tidy '"' dialect)
  obtain ⟨formula, isFormula, holdsFormula⟩ := (written.reads 1).alternatives.ofText? lexes
  have bound : (Fragment.emitAll reading {} (predicate.fragments dialect)).2.values =
      (predicate.meaning dialect).operands := by
    rw [Fragment.emitAll_bound rfl, written.bound_eq]
    rfl
  refine ⟨formula.truth engine row (predicate.meaning dialect).operands, ?_, ?_⟩
  · rw [Predicate.truth?, ← bound]
    exact congrArg (Option.map _) isFormula
  · rw [Formula.truth_eq_yes_iff, holdsFormula]

theorem truth?_condition {single : Condition} (wellFormed : single.WellFormed) :
    ∃ truth, (Predicate.condition single).truth? dialect engine row = some truth ∧
      (truth = .yes ↔ single.truth dialect engine row = .yes) := by
  obtain ⟨truth, isTruth, meansTruth⟩ :=
    (WellFormed.condition single wellFormed).truth? dialect engine row
  exact ⟨truth, isTruth, meansTruth.trans decide_eq_true_iff⟩

end Predicate

/-- Whether values are folded in a list as they are on their own: all of them are text, or none is,
apart from null. -/
def FoldedAlike (values : List Value) : Prop :=
  (∀ value ∈ values, value.isNull ∨ value.isString) ∨ ∀ value ∈ values, value.isString = false

theorem FoldedAlike.isString_eq {values : List Value} (alike : FoldedAlike values) {value : Value}
    (member : value ∈ values) (notNull : value.isNull = false) :
    values.any Value.isString = value.isString := by
  rcases alike with areText | noText
  · have isText : value.isString := (areText value member).resolve_left (by simp [notNull])
    rw [isText, List.any_eq_true]
    exact ⟨value, member, isText⟩
  · rw [noText value member, List.any_eq_false]
    exact fun other isMember => by simp [noText other isMember]

namespace Column

def equals (column : Column) (value : Value) : Truth :=
  let folded := column.isFolded dialect value.isString
  engine.relates .equal ((column.operand folded).content engine row) (value.compared folded)

variable {dialect engine row} {values : List Value} (column : Column)

theorem equals_of_null (isNull : row column.ref = none) (value : Value) :
    column.equals dialect engine row value = .unknown := by
  have noContent (folded : Bool) : (column.operand folded).content engine row = none := by
    cases folded <;> simp [operand, Operand.content, isNull]
  simp only [equals, noContent]
  rfl

theorem equals_ne_unknown (isContent : row column.ref ≠ none) {value : Value}
    (notNull : value.isNull = false) : column.equals dialect engine row value ≠ .unknown := by
  obtain ⟨content, isContent⟩ := Option.ne_none_iff_exists'.mp isContent
  have hasContent (folded : Bool) :
      ∃ content, (column.operand folded).content engine row = some content := by
    cases folded <;> simp [operand, Operand.content, isContent]
  obtain ⟨read, isRead⟩ := hasContent (column.isFolded dialect value.isString)
  simp only [equals, isRead, Engine.relates, Truth.comparing, Value.isNull_compared, notNull]
  exact Truth.ofBool_ne_unknown _

variable (dialect engine row)

@[simp] theorem equals_null : column.equals dialect engine row .null = .unknown := by
  simp only [equals, Value.compared_null]
  exact Truth.comparing_null _ _

theorem truth_equality (negated : Bool) (value : Value) :
    (column.equality negated value).truth dialect engine row =
      if value.isNull then .ofBool ((row column.ref).isNone != negated)
      else if negated then (column.equals dialect engine row value).not
      else column.equals dialect engine row value := by
  rw [equality]
  split
  · rfl
  · cases negated <;> rfl

theorem truth_membership (negated : Bool) (alike : FoldedAlike values) :
    (column.membership negated (values.map .value)).truth dialect engine row =
      let among := Truth.any (values.map (column.equals dialect engine row))
      if negated then among.not else among := by
  have areValues : (values.map Filter.value).filterMap Filter.value? = values := by
    rw [List.filterMap_map]
    exact List.filterMap_some
  rw [membership, List.isEmpty_map, areValues]
  split
  · rename_i isEmpty
    rw [List.isEmpty_iff.mp isEmpty]
    cases negated <;> rfl
  · let folded := column.isFolded dialect (values.any Value.isString)
    have same : ∀ value ∈ values,
        engine.relates .equal ((column.operand folded).content engine row)
            (value.compared folded) =
          column.equals dialect engine row value := by
      intro value member
      cases isNull : value.isNull with
      | true =>
          obtain rfl := Value.isNull_iff.mp isNull
          rw [equals_null, Value.compared_null]
          exact Truth.comparing_null _ _
      | false =>
          have sameFolded : folded = column.isFolded dialect value.isString :=
            congrArg (column.isFolded dialect) (alike.isString_eq member isNull)
          rw [sameFolded]
          rfl
    have among := map_placed (values.map (Value.compared folded))
      (engine.relates .equal ((column.operand folded).content engine row))
    rw [List.length_map, List.map_map] at among
    have elementwise : _ = values.map (column.equals dialect engine row) :=
      among.trans (List.map_congr_left same)
    rw [← elementwise]
    cases negated <;> rfl

end Column

namespace Scope

/-- What the predicate of a key and its filter says of a row, if there is one. -/
def truth? (scope : Scope) (key : String) (filter : Filter) : Option Truth :=
  match scope.expand key filter with
  | .ok (some predicate) => predicate.truth? dialect engine row
  | _ => none

def Selects (scope : Scope) (key : String) (filter : Filter) : Prop :=
  scope.truth? dialect engine row key filter = some .yes

variable (scope : Scope) {key spelling : String} {values : List Value}

theorem membership_values (key : String) (negated : Bool) (values : List Value) :
    scope.membership key negated (values.map .value) =
      .ok (.condition ((scope.column key).membership negated (values.map .value))) := by
  have listed : listValues key (values.map .value) = .ok values := by
    induction values with
    | nil => rfl
    | cons value rest ih => rw [List.map_cons, listValues, ih]; rfl
  have compiled : scope.membership key negated (values.map .value) = .ok _ :=
    congrArg (Except.map _) listed
  rw [compiled, (membership_eq compiled).1]

theorem expand_value (isColumn : CriteriaKey.ofText key = .column key) (value : Value) :
    scope.expand key (.value value) =
      .ok (some (.condition ((scope.column key).equality false value))) := by
  rw [expand, isColumn, ← equality_eq]

theorem expand_list (isColumn : CriteriaKey.ofText key = .column key) (values : List Value) :
    scope.expand key (.list (values.map .value)) =
      .ok (some (.condition ((scope.column key).membership false (values.map .value)))) := by
  rw [expand, isColumn]
  exact congrArg (Except.map some) (scope.membership_values key false values)

theorem expand_not (isColumn : CriteriaKey.ofText key = .column key)
    (isNot : Operator.ofKey? spelling = some .not) {operand : Filter} {predicate : Predicate}
    (compiled : scope.operation key spelling .not operand = .ok predicate) :
    scope.expand key (.object [(spelling, operand)]) = .ok (some (.every [predicate])) := by
  have notAssociated : scope.associated key [(spelling, operand)] = .ok none := by
    rw [associated, if_pos]
    simp [Operator.isKey, isNot]
  have compiledAll : scope.operations key [(spelling, operand)] = .ok [predicate] := by
    simp only [operations, isNot, compiled]
    rfl
  rw [expand, isColumn]
  simp only [notAssociated]
  exact congrArg (Except.map every?) compiledAll

theorem selects_of_expand {filter : Filter} {single : Condition} {predicate : Predicate}
    (wellFormed : single.WellFormed) (expanded : scope.expand key filter = .ok (some predicate))
    (isSingle : predicate = .condition single ∨ predicate = .every [.condition single]) :
    (scope.truth? dialect engine row key filter).isSome ∧
      (scope.Selects dialect engine row key filter ↔
        single.truth dialect engine row = .yes) := by
  obtain ⟨truth, isTruth, means⟩ :=
    Predicate.truth?_condition dialect engine row wellFormed
  have isSaid : scope.truth? dialect engine row key filter = some truth := by
    rw [truth?, expanded]
    rcases isSingle with rfl | rfl <;> exact isTruth
  rw [Selects, isSaid, Option.some_inj]
  exact ⟨rfl, means⟩

section Keys

variable (isColumn : CriteriaKey.ofText key = .column key)

include isColumn

theorem selects_value (value : Value) :
    (scope.truth? dialect engine row key (.value value)).isSome ∧
      (scope.Selects dialect engine row key (.value value) ↔
        if value.isNull then row (scope.column key).ref = none
        else (scope.column key).equals dialect engine row value = .yes) := by
  have selects := scope.selects_of_expand dialect engine row (wellFormed_equality _ false value)
    (scope.expand_value isColumn value) (.inl rfl)
  rw [Column.truth_equality] at selects
  split <;> rename_i isNull
  · simpa [isNull] using selects
  · simpa [isNull] using selects

theorem selects_not_value (isNot : Operator.ofKey? spelling = some .not) (value : Value) :
    (scope.truth? dialect engine row key (.object [(spelling, .value value)])).isSome ∧
      (scope.Selects dialect engine row key (.object [(spelling, .value value)]) ↔
        if value.isNull then row (scope.column key).ref ≠ none
        else (scope.column key).equals dialect engine row value = .no) := by
  have compiled : scope.operation key spelling .not (.value value) =
      .ok (.condition ((scope.column key).equality true value)) := by
    rw [operation, Column.equality]
    split <;> rfl
  have selects := scope.selects_of_expand dialect engine row (wellFormed_equality _ true value)
    (scope.expand_not isColumn isNot compiled) (.inr rfl)
  rw [Column.truth_equality] at selects
  split <;> rename_i isNull
  · simpa [isNull, Option.isSome_iff_ne_none] using selects
  · simpa [isNull, Truth.not_eq_yes_iff] using selects

theorem selects_values (alike : FoldedAlike values) :
    (scope.truth? dialect engine row key (.list (values.map .value))).isSome ∧
      (scope.Selects dialect engine row key (.list (values.map .value)) ↔
        ∃ value ∈ values, (scope.column key).equals dialect engine row value = .yes) := by
  have selects := scope.selects_of_expand dialect engine row
    (membership_eq (scope.membership_values key false values)).2
    (scope.expand_list isColumn values) (.inl rfl)
  rw [Column.truth_membership dialect engine row _ _ alike] at selects
  simpa [Truth.any_eq_yes_iff] using selects

theorem selects_not_values (isNot : Operator.ofKey? spelling = some .not)
    (alike : FoldedAlike values) :
    (scope.truth? dialect engine row key
        (.object [(spelling, .list (values.map .value))])).isSome ∧
      (scope.Selects dialect engine row key (.object [(spelling, .list (values.map .value))]) ↔
        ∀ value ∈ values, (scope.column key).equals dialect engine row value = .no) := by
  have compiled : scope.operation key spelling .not (.list (values.map .value)) =
      .ok (.condition ((scope.column key).membership true (values.map .value))) := by
    rw [operation, if_pos rfl, membership_values]
  have selects := scope.selects_of_expand dialect engine row
    (membership_eq (scope.membership_values key true values)).2
    (scope.expand_not isColumn isNot compiled) (.inr rfl)
  rw [Column.truth_membership dialect engine row _ _ alike] at selects
  simpa [Truth.not_eq_yes_iff, Truth.any_eq_no_iff] using selects

theorem selects_null :
    scope.Selects dialect engine row key (.value .null) ↔ row (scope.column key).ref = none :=
  (scope.selects_value dialect engine row isColumn .null).2

theorem equals_eq_yes_iff (value : Value) :
    (scope.column key).equals dialect engine row value = .yes ↔
      value ≠ .null ∧ scope.Selects dialect engine row key (.value value) := by
  have selected := (scope.selects_value dialect engine row isColumn value).2
  by_cases isNull : value = .null
  · simp [isNull]
  · rw [selected, if_neg (mt Value.isNull_iff.mp isNull), and_iff_right isNull]

theorem equals_eq_no_iff (isNot : Operator.ofKey? spelling = some .not) (value : Value) :
    (scope.column key).equals dialect engine row value = .no ↔
      value ≠ .null ∧
        scope.Selects dialect engine row key (.object [(spelling, .value value)]) := by
  have selected := (scope.selects_not_value dialect engine row isColumn isNot value).2
  by_cases isNull : value = .null
  · simp [isNull]
  · rw [selected, if_neg (mt Value.isNull_iff.mp isNull), and_iff_right isNull]

theorem selects_values_agree_iff (alike : FoldedAlike values) :
    (scope.Selects dialect engine row key (.list (values.map .value)) ↔
        ∃ value ∈ values, scope.Selects dialect engine row key (.value value)) ↔
      (.null ∈ values → row (scope.column key).ref ≠ none) := by
  have isYes := scope.equals_eq_yes_iff dialect engine row isColumn
  have isNull := scope.selects_null dialect engine row isColumn
  rw [(scope.selects_values dialect engine row isColumn alike).2]
  constructor
  · intro agrees hasNull isNone
    obtain ⟨value, _, isEqual⟩ := agrees.mpr ⟨.null, hasNull, isNull.mpr isNone⟩
    rw [Column.equals_of_null _ isNone] at isEqual
    cases isEqual
  · intro hasContent
    constructor
    · rintro ⟨value, member, isEqual⟩
      exact ⟨value, member, ((isYes value).mp isEqual).2⟩
    · rintro ⟨value, member, selected⟩
      have notNull : value ≠ .null := by
        rintro rfl
        exact hasContent member (isNull.mp selected)
      exact ⟨value, member, (isYes value).mpr ⟨notNull, selected⟩⟩

theorem equals_eq_no_of_not_selects (noneSelects : ∀ value ∈ values,
    ¬ scope.Selects dialect engine row key (.value value)) (hasNull : .null ∈ values)
    {value : Value} (member : value ∈ values) (notNull : value ≠ .null) :
    (scope.column key).equals dialect engine row value = .no := by
  have hasContent : row (scope.column key).ref ≠ none := fun isNone =>
    noneSelects .null hasNull ((scope.selects_null dialect engine row isColumn).mpr isNone)
  cases isTruth : (scope.column key).equals dialect engine row value with
  | yes =>
      have selected := ((scope.equals_eq_yes_iff dialect engine row isColumn value).mp isTruth).2
      exact absurd selected (noneSelects value member)
  | no => rfl
  | unknown =>
      have isContent := Bool.eq_false_iff.mpr (mt Value.isNull_iff.mp notNull)
      exact absurd isTruth (Column.equals_ne_unknown _ hasContent isContent)

theorem selects_not_values_agree_iff (isNot : Operator.ofKey? spelling = some .not)
    (alike : FoldedAlike values) :
    (scope.Selects dialect engine row key (.object [(spelling, .list (values.map .value))]) ↔
        ∀ value ∈ values,
          scope.Selects dialect engine row key (.object [(spelling, .value value)])) ↔
      (.null ∈ values → ∃ value ∈ values, scope.Selects dialect engine row key (.value value)) := by
  have isNo := scope.equals_eq_no_iff dialect engine row isColumn isNot
  have isYes := scope.equals_eq_yes_iff dialect engine row isColumn
  have isNull := scope.selects_null dialect engine row isColumn
  have exceptNull := (scope.selects_not_value dialect engine row isColumn isNot .null).2
  rw [(scope.selects_not_values dialect engine row isColumn isNot alike).2]
  constructor
  · intro agrees hasNull
    by_contra noneSelects
    have noSelection := fun value member selected => noneSelects ⟨value, member, selected⟩
    have nullIsNo := agrees.mpr (fun value member => by
      by_cases valueNull : value = .null
      · exact valueNull ▸ exceptNull.mpr fun isNone => noSelection .null hasNull (isNull.mpr isNone)
      · exact ((isNo value).mp (scope.equals_eq_no_of_not_selects dialect engine row isColumn noSelection
          hasNull member valueNull)).2) .null hasNull
    rw [Column.equals_null] at nullIsNo
    cases nullIsNo
  · intro selected
    constructor
    · exact fun excepted value member => ((isNo value).mp (excepted value member)).2
    · intro excepted value member
      refine (isNo value).mpr ⟨?_, excepted value member⟩
      rintro rfl
      obtain ⟨other, isOther, selectsRow⟩ := selected member
      by_cases otherNull : other = .null
      · subst otherNull
        exact exceptNull.mp (excepted .null member) (isNull.mp selectsRow)
      · have isEqual := (isYes other).mpr ⟨otherNull, selectsRow⟩
        rw [(isNo other).mpr ⟨otherNull, excepted other isOther⟩] at isEqual
        cases isEqual

end Keys

/-- A list selects the rows that one of its values other than null selects, and what excludes it the
rows that, with no null in the list, each of its values leaves.  So both agree with their values as
long as null is none of them; otherwise the first does so for the rows that have something in the
column, and the second for the rows that one of the values selects. -/
theorem selects_list (isColumn : CriteriaKey.ofText key = .column key)
    (isNot : Operator.ofKey? spelling = some .not) (alike : FoldedAlike values) :
    let selects := scope.Selects dialect engine row key
    let all := Filter.list (values.map .value)
    let except (filter : Filter) := Filter.object [(spelling, filter)]
    (∀ filter, filter = all ∨ (∃ value ∈ values, filter = .value value) →
      (scope.truth? dialect engine row key filter).isSome ∧
        (scope.truth? dialect engine row key (except filter)).isSome) ∧
      (selects all ↔ ∃ value ∈ values, value ≠ .null ∧ selects (.value value)) ∧
      (selects (except all) ↔
        ∀ value ∈ values, value ≠ .null ∧ selects (except (.value value))) ∧
      ((selects all ↔ ∃ value ∈ values, selects (.value value)) ↔
        (.null ∈ values → row (scope.column key).ref ≠ none)) ∧
      ((selects (except all) ↔ ∀ value ∈ values, selects (except (.value value))) ↔
        (.null ∈ values → ∃ value ∈ values, selects (.value value))) := by
  intro selects all except
  obtain ⟨reads, selectsAll⟩ :=
    scope.selects_values dialect engine row isColumn alike
  obtain ⟨readsExcept, selectsExcept⟩ :=
    scope.selects_not_values dialect engine row isColumn isNot alike
  refine ⟨?_, ?_, ?_, scope.selects_values_agree_iff dialect engine row isColumn alike,
    scope.selects_not_values_agree_iff dialect engine row isColumn isNot alike⟩
  · rintro filter (rfl | ⟨value, _, rfl⟩)
    · exact ⟨reads, readsExcept⟩
    · exact ⟨(scope.selects_value dialect engine row isColumn value).1,
        (scope.selects_not_value dialect engine row isColumn isNot value).1⟩
  · exact selectsAll.trans <| exists_congr fun value =>
      and_congr_right fun _ => scope.equals_eq_yes_iff dialect engine row isColumn value
  · exact selectsExcept.trans <| forall₂_congr fun value _ =>
      scope.equals_eq_no_iff dialect engine row isColumn isNot value

def people : Table where
  name := "person"
  attributes := [("age", { type := some .integer }), ("name", { type := some .string })]

def textEngine : Engine String where
  lower := Text.lower
  equals content value := value.string? == some content
  orders comparison content value :=
    match comparison, value.string? with
    | .less, some text => content < text
    | .atMost, some text => content ≤ text
    | .greater, some text => text < content
    | .atLeast, some text => text ≤ content
    | _, none => false
  isLike ignoresCase content value :=
    value.string?.any fun pattern =>
      if ignoresCase then isLike (Text.lower pattern).toList (Text.lower content).toList
      else isLike pattern.toList content.toList

theorem selects_list_names :
    let scope := root {} people []
    let ann : Row String := fun _ => some "Ann"
    let bob : Row String := fun _ => some "Bob"
    let names : List Value := [.string "ANN", .null]
    CriteriaKey.ofText "name" = .column "name" ∧ Operator.ofKey? "!" = some .not ∧
      FoldedAlike names ∧
      scope.Selects {} textEngine ann "name" (.list (names.map .value)) ∧
      ¬ scope.Selects {} textEngine bob "name" (.object [("!", .list (names.map .value))]) ∧
      scope.truth? {} textEngine bob "name" (.object [("!", .list (names.map .value))]) =
        some .unknown := by
  intro scope ann bob names
  have isColumn : CriteriaKey.ofText "name" = .column "name" := by decide +kernel
  have isNot : Operator.ofKey? "!" = some .not := by decide
  have alike : FoldedAlike names := .inl (by decide)
  obtain ⟨_, selectsAnn, _⟩ := selects_list {} textEngine ann scope isColumn isNot alike
  obtain ⟨_, _, exceptBob, _⟩ := selects_list {} textEngine bob scope isColumn isNot alike
  have isAnn : scope.Selects {} textEngine ann "name" (.value (.string "ANN")) := by
    rw [Selects]
    decide +kernel
  refine ⟨isColumn, isNot, alike, ?_, ?_, by decide +kernel⟩
  · exact selectsAnn.mpr ⟨.string "ANN", List.mem_cons_self, nofun, isAnn⟩
  · exact fun selected => (exceptBob.mp selected .null (by simp [names])).1 rfl

/-- Null selects a row without an age, but a list of null does not; and neither null nor a name
excludes the row of another name, but the two in a list do. -/
theorem selects_list_null :
    let scope := root {} people []
    let blank : Row String := fun _ => none
    let bob : Row String := fun _ => some "Bob"
    let names : List Value := [.string "ANN", .null]
    FoldedAlike [.null] ∧ FoldedAlike names ∧
      ¬ (scope.Selects {} textEngine blank "age" (.list [.value .null]) ↔
        ∃ value ∈ [Value.null], scope.Selects {} textEngine blank "age" (.value value)) ∧
      ¬ (scope.Selects {} textEngine bob "name" (.object [("!", .list (names.map .value))]) ↔
        ∀ value ∈ names,
          scope.Selects {} textEngine bob "name" (.object [("!", .value value)])) := by
  intro scope blank bob names
  have isBlank : scope.truth? {} textEngine blank "age" (.value .null) = some .yes ∧
      scope.truth? {} textEngine blank "age" (.list [.value .null]) = some .unknown := by
    decide +kernel
  have isOther : scope.truth? {} textEngine bob "name" (.object [("!", .value (.string "ANN"))]) =
        some .yes ∧
      scope.truth? {} textEngine bob "name" (.object [("!", .value .null)]) = some .yes ∧
      scope.truth? {} textEngine bob "name" (.object [("!", .list (names.map .value))]) =
        some .unknown := by
    decide +kernel
  refine ⟨.inl (by decide), .inl (by decide), fun agrees => ?_, fun agrees => ?_⟩
  · have selected := agrees.mpr ⟨.null, List.mem_cons_self, isBlank.1⟩
    rw [Selects, isBlank.2] at selected
    cases selected
  · have selected := agrees.mpr <|
      List.forall_mem_cons.mpr ⟨isOther.1, List.forall_mem_singleton.mpr isOther.2.1⟩
    rw [Selects, isOther.2.2] at selected
    cases selected

end Scope

end QuerySql
