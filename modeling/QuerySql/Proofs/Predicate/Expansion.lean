import QuerySql.Proofs.Predicate.Meaning

namespace QuerySql

open Sql

namespace Predicate

section Meaning

variable (dialect : Dialect)

mutual

def meaning : Predicate → Meaning
  | .condition single => single.meaning dialect
  | .every parts => .all (partMeanings parts)
  | .group connective elements => .combined connective (elementMeanings elements)
termination_by structural predicate => predicate

def partMeanings : List Predicate → List Meaning
  | [] => []
  | part :: rest => meaning part :: partMeanings rest
termination_by structural parts => parts

def elementMeanings : List (List Predicate) → List Meaning
  | [] => []
  | element :: rest => .all (partMeanings element) :: elementMeanings rest
termination_by structural elements => elements

end

theorem partMeanings_eq_map (parts : List Predicate) :
    partMeanings dialect parts = parts.map (meaning dialect) := by
  induction parts with
  | nil => rfl
  | cons part rest ih => rw [partMeanings, ih, List.map_cons]

theorem elementMeanings_eq_map (elements : List (List Predicate)) :
    elementMeanings dialect elements =
      elements.map fun element => .all (element.map (meaning dialect)) := by
  induction elements with
  | nil => rfl
  | cons element rest ih => rw [elementMeanings, ih, partMeanings_eq_map, List.map_cons]

end Meaning

end Predicate

def Condition.WellFormed : Condition → Prop
  | .member _ _ operands => operands ≠ []
  | _ => True

inductive Predicate.WellFormed : Predicate → Prop
  | condition (single : Condition) (wellFormed : single.WellFormed) :
      WellFormed (.condition single)
  | every (parts : List Predicate) (notEmpty : parts ≠ [])
      (wellFormed : ∀ part ∈ parts, WellFormed part) : WellFormed (.every parts)
  | group (connective : Connective) (elements : List (List Predicate)) (notEmpty : elements ≠ [])
      (partsNotEmpty : ∀ element ∈ elements, element ≠ [])
      (wellFormed : ∀ element ∈ elements, ∀ part ∈ element, WellFormed part) :
      WellFormed (.group connective elements)

theorem Predicate.WellFormed.constrains {predicate : Predicate} (dialect : Dialect)
    (wellFormed : predicate.WellFormed) : (predicate.meaning dialect).constrains := by
  induction wellFormed with
  | condition single wellFormed => rfl
  | every parts notEmpty wellFormed ih =>
      rw [Predicate.meaning, Predicate.partMeanings_eq_map]
      exact Meaning.constrains_all notEmpty ih
  | group connective elements notEmpty partsNotEmpty wellFormed ih =>
      rw [Predicate.meaning, Predicate.elementMeanings_eq_map]
      exact Meaning.constrains_combined connective notEmpty fun element member =>
        Meaning.constrains_all (partsNotEmpty element member) (ih element member)

namespace Scope

variable {scope : Scope} {key : String}

theorem equality_eq (value : Value) :
    scope.equality key value = .condition ((scope.column key).equality false value) := by
  rw [equality, Column.equality]
  split <;> rfl

theorem wellFormed_equality (column : Column) (negated : Bool) (value : Value) :
    (column.equality negated value).WellFormed := by
  rw [Column.equality]
  split <;> exact trivial

theorem listValues_eq {items : List Filter} {values : List Value}
    (listed : listValues key items = .ok values) :
    values = items.filterMap Filter.value? ∧ values.length = items.length := by
  induction items generalizing values with
  | nil =>
      cases listed
      exact ⟨rfl, rfl⟩
  | cons item rest ih =>
      cases item with
      | value value =>
          obtain ⟨following, listedRest, rfl⟩ := exists_of_map_eq_ok listed
          obtain ⟨areValues, sameLength⟩ := ih listedRest
          exact ⟨congrArg (value :: ·) areValues, congrArg (· + 1) sameLength⟩
      | list items => cases listed
      | object entries => cases listed

theorem membership_eq {negated : Bool} {items : List Filter} {predicate : Predicate}
    (expanded : scope.membership key negated items = .ok predicate) :
    predicate = .condition ((scope.column key).membership negated items) ∧
      ((scope.column key).membership negated items).WellFormed := by
  obtain ⟨values, listed, rfl⟩ := exists_of_map_eq_ok expanded
  obtain ⟨areValues, sameLength⟩ := listValues_eq listed
  have sameEmptiness : values.isEmpty = items.isEmpty := by
    rw [Bool.eq_iff_iff, List.isEmpty_iff_length_eq_zero, sameLength,
      List.isEmpty_iff_length_eq_zero]
  rw [Column.membership, ← areValues, ← sameEmptiness]
  by_cases isEmpty : values.isEmpty
  · rw [if_pos isEmpty, if_pos isEmpty]
    exact ⟨rfl, trivial⟩
  · rw [if_neg isEmpty, if_neg isEmpty]
    exact ⟨rfl, mt List.isEmpty_iff.mpr isEmpty⟩

theorem textMatch_eq {spelling : String} {kind : TextMatch} {value : Value}
    {predicate : Predicate} (expanded : scope.textMatch key spelling kind value = .ok predicate) :
    predicate = .condition (.textMatch (scope.column key) kind value.text) := by
  rw [textMatch] at expanded
  split at expanded
  · cases expanded
  · exact (Except.ok.inj expanded).symm

theorem operation_eq {spelling : String} {operator : Operator} {operand : Filter}
    {predicate : Predicate}
    (expanded : scope.operation key spelling operator operand = .ok predicate) :
    ∃ single : Condition, (scope.column key).operation? operator operand = some single ∧
      predicate = .condition single ∧ single.WellFormed := by
  cases operand with
  | value value =>
      cases operator with
      | compare comparison =>
          cases expanded
          exact ⟨_, rfl, rfl, trivial⟩
      | not =>
          refine ⟨_, rfl, ?_, wellFormed_equality _ true value⟩
          rw [Column.equality]
          rw [operation] at expanded
          split at expanded <;> rename_i isNull
          · rw [if_pos isNull]
            exact (Except.ok.inj expanded).symm
          · rw [if_neg isNull]
            exact (Except.ok.inj expanded).symm
      | textMatch kind => exact ⟨_, rfl, textMatch_eq expanded, trivial⟩
  | list items =>
      rw [operation] at expanded
      split at expanded
      · rename_i isNot
        subst isNot
        obtain ⟨isCondition, wellFormed⟩ := membership_eq expanded
        exact ⟨_, rfl, isCondition, wellFormed⟩
      · cases expanded
  | object entries => cases expanded

end Scope

variable {dialect : Dialect}

/-- Well-formed predicates that together have a meaning. -/
structure Express (dialect : Dialect) (predicates : List Predicate) (meaning : Meaning) : Prop where
  wellFormed : ∀ predicate ∈ predicates, predicate.WellFormed
  meaning_eq : meaning = .all (predicates.map (Predicate.meaning dialect))

namespace Express

variable {front back parts : List Predicate} {first second meaning : Meaning}

theorem nil : Express dialect [] .free :=
  ⟨by simp, rfl⟩

theorem single {predicate : Predicate} (wellFormed : predicate.WellFormed) :
    Express dialect [predicate] (predicate.meaning dialect) :=
  ⟨by simpa using wellFormed, by simp⟩

theorem append (frontExpress : Express dialect front first)
    (backExpress : Express dialect back second) :
    Express dialect (front ++ back) (first.both second) where
  wellFormed := by
    intro predicate member
    rcases List.mem_append.mp member with inFront | inBack
    · exact frontExpress.wellFormed predicate inFront
    · exact backExpress.wellFormed predicate inBack
  meaning_eq := by
    rw [frontExpress.meaning_eq, backExpress.meaning_eq, List.map_append, Meaning.all_append]

theorem cons {predicate : Predicate} (wellFormed : predicate.WellFormed)
    (express : Express dialect back second) :
    Express dialect (predicate :: back) ((predicate.meaning dialect).both second) :=
  (single wellFormed).append express

theorem every (express : Express dialect parts meaning) :
    Express dialect (Scope.every? parts).toList meaning := by
  rw [Scope.every?]
  by_cases isEmpty : parts.isEmpty
  · rw [if_pos isEmpty, express.meaning_eq, List.isEmpty_iff.mp isEmpty]
    exact nil
  · rw [if_neg isEmpty, express.meaning_eq, ← Predicate.partMeanings_eq_map]
    refine single (.every parts (mt List.isEmpty_iff.mpr isEmpty) ?_)
    exact express.wellFormed

end Express

/-- The elements of a group with a meaning; `none` stands for a disjunction that holds of every
row. -/
def ElementsExpress (dialect : Dialect) (connective : Connective) (meanings : List Meaning) :
    Option (List (List Predicate)) → Prop
  | none => connective = .disjunction ∧ Meaning.any meanings = .free
  | some elements =>
      (∀ element ∈ elements, element ≠ [] ∧ ∀ part ∈ element, part.WellFormed) ∧
        Meaning.combined connective meanings = .combined connective
          (elements.map fun element => .all (element.map (Predicate.meaning dialect))) ∧
        (connective = .disjunction → elements.length = meanings.length)

namespace ElementsExpress

variable {connective : Connective} {meanings : List Meaning} {meaning : Meaning}
  {elements : Option (List (List Predicate))}

theorem nil : ElementsExpress dialect connective [] (some []) :=
  ⟨by simp, rfl, fun _ => rfl⟩

theorem cons {element : List Predicate} (notEmpty : element ≠ [])
    (express : Express dialect element meaning)
    (following : ElementsExpress dialect connective meanings elements) :
    ElementsExpress dialect connective (meaning :: meanings) (elements.map (element :: ·)) := by
  cases elements with
  | none =>
      obtain ⟨rfl, isFree⟩ := following
      refine ⟨rfl, ?_⟩
      rw [Meaning.any_cons, isFree, Meaning.either_free]
  | some elements =>
      obtain ⟨wellFormed, sameMeaning, sameLength⟩ := following
      refine ⟨?_, ?_, fun isDisjunction => congrArg (· + 1) (sameLength isDisjunction)⟩
      · intro other member
        rcases List.mem_cons.mp member with rfl | inRest
        · exact ⟨notEmpty, express.wellFormed⟩
        · exact wellFormed other inRest
      · rw [Meaning.combined_cons, sameMeaning, List.map_cons, Meaning.combined_cons,
          express.meaning_eq]

theorem skip (following : ElementsExpress dialect .conjunction meanings elements) :
    ElementsExpress dialect .conjunction (.free :: meanings) elements := by
  cases elements with
  | none => cases following.1
  | some elements =>
      obtain ⟨wellFormed, sameMeaning, _⟩ := following
      refine ⟨wellFormed, ?_, nofun⟩
      rw [← sameMeaning]
      exact Meaning.free_both _

theorem absorb : ElementsExpress dialect .disjunction (.free :: meanings) none :=
  ⟨rfl, Meaning.free_either _⟩

theorem group (elementsExpress : ElementsExpress dialect connective meanings elements)
    (notEmpty : meanings ≠ []) :
    Express dialect
      (elements.bind fun elements =>
        if elements.isEmpty then none else some (.group connective elements)).toList
      (.combined connective meanings) := by
  cases elements with
  | none =>
      obtain ⟨rfl, isFree⟩ := elementsExpress
      rw [Meaning.combined, isFree]
      exact .nil
  | some elements =>
      obtain ⟨wellFormed, sameMeaning, sameLength⟩ := elementsExpress
      rw [Option.bind_some]
      by_cases isEmpty : elements.isEmpty
      · rw [if_pos isEmpty, sameMeaning, List.isEmpty_iff.mp isEmpty]
        cases connective with
        | conjunction => exact .nil
        | disjunction =>
            have noMeaning := sameLength rfl
            rw [List.isEmpty_iff.mp isEmpty, List.length_nil, eq_comm,
              List.length_eq_zero_iff] at noMeaning
            exact absurd noMeaning notEmpty
      · rw [if_neg isEmpty, sameMeaning, ← Predicate.elementMeanings_eq_map]
        exact .single (.group connective elements
          (mt List.isEmpty_iff.mpr isEmpty)
          (fun element member => (wellFormed element member).1)
          (fun element member => (wellFormed element member).2))

end ElementsExpress

namespace Scope

variable {scope : Scope} {key : String}

theorem express_patterns {entries : Criteria} {predicates : List Predicate}
    (expanded : scope.patterns entries = .ok predicates) :
    Express dialect predicates
      (.all (entries.map fun entry => scope.patternMeaning dialect entry.1 entry.2)) := by
  induction entries generalizing predicates with
  | nil =>
      cases expanded
      exact .nil
  | cons entry rest ih =>
      obtain ⟨key, pattern⟩ := entry
      cases pattern with
      | value value =>
          obtain ⟨predicate, matched, following⟩ := exists_of_bind_eq_ok expanded
          obtain ⟨others, expandedRest, rfl⟩ := exists_of_map_eq_ok following
          rw [textMatch_eq matched]
          exact (ih expandedRest).cons (.condition _ trivial)
      | list items => cases expanded
      | object entries => cases expanded

theorem express_operations {entries : Criteria} {predicates : List Predicate}
    (expanded : scope.operations key entries = .ok predicates) :
    Express dialect predicates
      (.all (entries.map fun entry => scope.operatorMeaning dialect key entry.1 entry.2)) := by
  induction entries generalizing predicates with
  | nil =>
      cases expanded
      exact .nil
  | cons entry rest ih =>
      obtain ⟨spelling, operand⟩ := entry
      rw [operations] at expanded
      split at expanded
      · cases expanded
      · rename_i operator isOperator
        obtain ⟨predicate, compared, following⟩ := exists_of_bind_eq_ok expanded
        obtain ⟨others, expandedRest, rfl⟩ := exists_of_map_eq_ok following
        obtain ⟨single, isSingle, rfl, wellFormed⟩ := operation_eq compared
        have express := (ih expandedRest).cons (.condition single wellFormed)
        rw [List.map_cons, Meaning.all_cons, operatorMeaning, isOperator, Option.bind_some,
          isSingle]
        exact express

variable (dialect)

mutual

/-- Expanded criteria mean what the tree means. -/
theorem express_expandAll (scope : Scope) (criteria : List (String × Filter))
    (predicates : List Predicate) (expanded : scope.expandAll criteria = .ok predicates) :
    Express dialect predicates (scope.meaning dialect criteria) := by
  cases criteria with
  | nil =>
      cases expanded
      exact .nil
  | cons entry rest =>
      obtain ⟨key, filter⟩ := entry
      obtain ⟨predicate, expandedFirst, following⟩ := exists_of_bind_eq_ok expanded
      obtain ⟨others, expandedRest, rfl⟩ := exists_of_map_eq_ok following
      exact (express_expand scope key filter predicate expandedFirst).append
        (express_expandAll scope rest others expandedRest)
termination_by structural criteria

theorem express_expand (scope : Scope) (key : String) (filter : Filter)
    (predicate : Option Predicate) (expanded : scope.expand key filter = .ok predicate) :
    Express dialect predicate.toList (scope.meaningAt dialect key filter) := by
  cases filter with
  | value value =>
      rw [expand] at expanded
      rw [meaningAt]
      cases kind : CriteriaKey.ofText key with
      | group connective => simp [kind] at expanded
      | patterns => simp [kind] at expanded
      | column key =>
          simp only [kind] at expanded
          cases expanded
          rw [equality_eq]
          exact .single (.condition _ (wellFormed_equality _ false value))
  | list items =>
      rw [expand] at expanded
      rw [meaningAt]
      cases kind : CriteriaKey.ofText key with
      | group connective =>
          simp only [kind] at expanded
          split at expanded
          · cases expanded
          · rename_i notEmpty
            obtain ⟨elements, expandedItems, rfl⟩ := exists_of_map_eq_ok expanded
            refine (express_expandElements scope connective items elements expandedItems).group ?_
            cases items with
            | nil => exact absurd rfl notEmpty
            | cons item rest => cases item <;> simp [elementMeanings]
      | patterns => simp [kind] at expanded
      | column key =>
          simp only [kind] at expanded
          obtain ⟨predicate, isMember, rfl⟩ := exists_of_map_eq_ok expanded
          obtain ⟨rfl, wellFormed⟩ := membership_eq isMember
          exact .single (.condition _ wellFormed)
  | object entries =>
      rw [expand] at expanded
      rw [meaningAt]
      cases kind : CriteriaKey.ofText key with
      | group connective => simp [kind] at expanded
      | patterns =>
          simp only [kind] at expanded
          obtain ⟨predicates, matched, rfl⟩ := exists_of_map_eq_ok expanded
          exact (express_patterns matched).every
      | column key =>
          simp only [kind] at expanded
          obtain ⟨related, isRelated, following⟩ := exists_of_bind_eq_ok expanded
          simp only [isRelated]
          cases related with
          | some table =>
              obtain ⟨predicates, nested, rfl⟩ := exists_of_map_eq_ok following
              exact (express_expandAll _ entries predicates nested).every
          | none =>
              obtain ⟨predicates, compared, rfl⟩ := exists_of_map_eq_ok following
              exact (express_operations compared).every
termination_by structural filter

theorem express_expandElements (scope : Scope) (connective : Connective) (items : List Filter)
    (elements : Option (List (List Predicate)))
    (expanded : scope.expandElements connective items = .ok elements) :
    ElementsExpress dialect connective (scope.elementMeanings dialect items) elements := by
  cases items with
  | nil =>
      cases expanded
      exact .nil
  | cons item rest =>
      cases item with
      | value value => cases expanded
      | list items => cases expanded
      | object entries =>
          rw [expandElements] at expanded
          rw [elementMeanings]
          obtain ⟨predicates, expandedFirst, following⟩ := exists_of_bind_eq_ok expanded
          have express := express_expandAll scope entries predicates expandedFirst
          by_cases isEmpty : predicates.isEmpty
          · rw [if_pos isEmpty] at following
            have isFree : scope.meaning dialect entries = .free := by
              rw [express.meaning_eq, List.isEmpty_iff.mp isEmpty]
              rfl
            rw [isFree]
            -- An element that holds of every row absorbs a disjunction and drops out of a
            -- conjunction.
            cases connective with
            | disjunction =>
                cases following
                exact .absorb
            | conjunction =>
                exact .skip (express_expandElements scope .conjunction rest elements following)
          · rw [if_neg isEmpty] at following
            obtain ⟨others, expandedRest, rfl⟩ := exists_of_map_eq_ok following
            exact .cons (mt List.isEmpty_iff.mpr isEmpty) express
              (express_expandElements scope connective rest others expandedRest)
termination_by structural items

end

end Scope

end QuerySql
