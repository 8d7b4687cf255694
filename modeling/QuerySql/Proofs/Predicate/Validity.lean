import QuerySql.Proofs.Predicate.Expansion

/-!
Criteria without faults.  A disjunction is read up to the first alternative that holds of every row,
so that faults behind it are not met.  Criteria whose elements are all free of faults expand in
every order of alternatives; they expand in some order if each disjunction with an element at fault
has one that holds of every row, to be read first.  Both are asked of criteria without regard to the
order in which their alternatives stand.
-/

namespace QuerySql

inductive Orders where
  | every
  | some
  deriving DecidableEq

namespace Scope

def constrains (scope : Scope) (criteria : Criteria) : Bool :=
  (scope.meaning {} criteria).constrains

def admitsList (key : String) (items : List Filter) (elements : Connective → Bool) : Bool :=
  match CriteriaKey.ofText key with
  | .group connective => !items.isEmpty && elements connective
  | .column key => (listValues key items).isOk
  | .patterns => false

def admitsObject (scope : Scope) (key : String) (entries : Criteria) (inside : Scope → Bool) :
    Bool :=
  match CriteriaKey.ofText key with
  | .patterns => (scope.patterns entries).isOk
  | .column key =>
      match scope.associated key entries with
      | .ok (some related) => inside (scope.enter key related)
      | .ok none => (scope.operations key entries).isOk
      | .error _ => false
  | .group _ => false

mutual

/-- Whether criteria expand in every order of alternatives, or in some order. -/
def accepts (orders : Orders) (scope : Scope) : List (String × Filter) → Bool
  | [] => true
  | (key, filter) :: rest => acceptsAt orders scope key filter && accepts orders scope rest
termination_by structural criteria => criteria

def acceptsAt (orders : Orders) (scope : Scope) (key : String) : Filter → Bool
  | .value _ =>
      match CriteriaKey.ofText key with
      | .column _ => true
      | .group _ | .patterns => false
  | .list items =>
      admitsList key items fun connective =>
        acceptsElements orders scope items ||
          (orders == .some && connective == .disjunction && acceptsFree orders scope items)
  | .object entries => scope.admitsObject key entries fun inner => accepts orders inner entries
termination_by structural filter => filter

def acceptsElements (orders : Orders) (scope : Scope) : List Filter → Bool
  | [] => true
  | .object entries :: rest => accepts orders scope entries && acceptsElements orders scope rest
  | _ :: _ => false
termination_by structural items => items

/-- Whether one of the elements is accepted and holds of every row. -/
def acceptsFree (orders : Orders) (scope : Scope) : List Filter → Bool
  | [] => false
  | .object entries :: rest =>
      (accepts orders scope entries && !scope.constrains entries) || acceptsFree orders scope rest
  | _ :: rest => acceptsFree orders scope rest
termination_by structural items => items

end

variable {scope : Scope} {key : String} {items : List Filter} {entries : Criteria}

theorem constrains_eq_not_isEmpty {criteria : Criteria} {predicates : List Predicate}
    (expanded : scope.expandAll criteria = .ok predicates) :
    scope.constrains criteria = !predicates.isEmpty := by
  have express := express_expandAll {} scope criteria predicates expanded
  rw [constrains, express.meaning_eq]
  cases predicates with
  | nil => rfl
  | cons predicate rest =>
      exact Meaning.constrains_all nofun fun part member =>
        (express.wellFormed part member).constrains {}

theorem admitsList_group {connective : Connective} {elements : Connective → Bool}
    (isGroup : CriteriaKey.ofText key = .group connective) :
    admitsList key items elements = (!items.isEmpty && elements connective) := by
  rw [admitsList, isGroup]

theorem admitsList_cases (key : String) (items : List Filter) :
    (∃ connective, CriteriaKey.ofText key = .group connective) ∨
      ∀ elements elements', admitsList key items elements = admitsList key items elements' := by
  simp only [admitsList]
  cases CriteriaKey.ofText key with
  | group connective => exact .inl ⟨connective, rfl⟩
  | patterns => exact .inr fun _ _ => rfl
  | column key => exact .inr fun _ _ => rfl

theorem admitsObject_cases (scope : Scope) (key : String) (entries : Criteria) :
    (∃ inner, ∀ inside, scope.admitsObject key entries inside = inside inner) ∨
      ∀ inside inside',
        scope.admitsObject key entries inside = scope.admitsObject key entries inside' := by
  simp only [admitsObject]
  cases CriteriaKey.ofText key with
  | group connective => exact .inr fun _ _ => rfl
  | patterns => exact .inr fun _ _ => rfl
  | column key =>
      dsimp only
      cases scope.associated key entries with
      | error error => exact .inr fun _ _ => rfl
      | ok related =>
          cases related with
          | some related => exact .inl ⟨scope.enter key related, fun _ => rfl⟩
          | none => exact .inr fun _ _ => rfl

theorem isOk_expandAll_cons (filter : Filter) (rest : Criteria) :
    (scope.expandAll ((key, filter) :: rest)).isOk =
      ((scope.expand key filter).isOk && (scope.expandAll rest).isOk) := by
  rw [expandAll]
  cases scope.expand key filter with
  | error error => rfl
  | ok predicate => exact isOk_map _ _

theorem isOk_expand_value (value : Value) (orders : Orders) :
    (scope.expand key (.value value)).isOk = scope.acceptsAt orders key (.value value) := by
  rw [expand, acceptsAt]
  cases CriteriaKey.ofText key <;> rfl

theorem isOk_expand_list :
    (scope.expand key (.list items)).isOk =
      admitsList key items fun connective => (scope.expandElements connective items).isOk := by
  rw [expand, admitsList]
  cases CriteriaKey.ofText key with
  | group connective =>
      cases items with
      | nil => rfl
      | cons item rest => exact isOk_map _ _
  | patterns => rfl
  | column key =>
      dsimp only
      rw [isOk_map, membership, isOk_map]

theorem isOk_expand_object :
    (scope.expand key (.object entries)).isOk =
      scope.admitsObject key entries fun inner => (inner.expandAll entries).isOk := by
  rw [expand, admitsObject]
  cases CriteriaKey.ofText key with
  | group connective => rfl
  | patterns => exact isOk_map _ _
  | column key =>
      dsimp only
      cases scope.associated key entries with
      | error error => rfl
      | ok related => cases related <;> exact isOk_map _ _

theorem isOk_expandElements_cons (connective : Connective) (entries : Criteria)
    (rest : List Filter) :
    (scope.expandElements connective (.object entries :: rest)).isOk =
      ((scope.expandAll entries).isOk &&
        (connective == .disjunction && !scope.constrains entries ||
          (scope.expandElements connective rest).isOk)) := by
  rw [expandElements]
  cases expanded : scope.expandAll entries with
  | error error => rfl
  | ok predicates =>
      rw [constrains_eq_not_isEmpty expanded, Bool.not_not]
      cases predicates with
      | nil => cases connective <;> rfl
      | cons predicate predicates =>
          rw [List.isEmpty_cons, Bool.and_false, Bool.false_or]
          exact isOk_map _ _

theorem exists_object_of_isOk {connective : Connective} {item : Filter} {rest : List Filter}
    (expanded : (scope.expandElements connective (item :: rest)).isOk) :
    ∃ entries, item = .object entries := by
  cases item with
  | value value => cases expanded
  | list items => cases expanded
  | object entries => exact ⟨entries, rfl⟩

mutual

theorem isOk_expandAll (scope : Scope) (criteria : List (String × Filter))
    (accepted : scope.accepts .every criteria) : (scope.expandAll criteria).isOk := by
  cases criteria with
  | nil => rfl
  | cons entry rest =>
      obtain ⟨key, filter⟩ := entry
      rw [accepts, Bool.and_eq_true] at accepted
      rw [isOk_expandAll_cons, Bool.and_eq_true]
      exact ⟨isOk_expand scope key filter accepted.1, isOk_expandAll scope rest accepted.2⟩
termination_by structural criteria

theorem isOk_expand (scope : Scope) (key : String) (filter : Filter)
    (accepted : scope.acceptsAt .every key filter) : (scope.expand key filter).isOk := by
  cases filter with
  | value value => rwa [isOk_expand_value]
  | list items =>
      rw [acceptsAt] at accepted
      rw [isOk_expand_list]
      rcases admitsList_cases key items with ⟨connective, isGroup⟩ | same
      · rw [admitsList_group isGroup, Bool.and_eq_true, Bool.or_eq_true] at accepted
        obtain ⟨notEmpty, elements | isSome⟩ := accepted
        · rw [admitsList_group isGroup, notEmpty, Bool.true_and]
          exact isOk_expandElements scope connective items elements
        · cases isSome
      · exact (same _ _).trans accepted
  | object entries =>
      rw [acceptsAt] at accepted
      rw [isOk_expand_object]
      rcases scope.admitsObject_cases key entries with ⟨inner, leads⟩ | same
      · rw [leads] at accepted ⊢
        exact isOk_expandAll inner entries accepted
      · exact (same _ _).trans accepted
termination_by structural filter

theorem isOk_expandElements (scope : Scope) (connective : Connective) (items : List Filter)
    (accepted : scope.acceptsElements .every items) :
    (scope.expandElements connective items).isOk := by
  cases items with
  | nil => rfl
  | cons item rest =>
      cases item with
      | value value => cases accepted
      | list items => cases accepted
      | object entries =>
          rw [acceptsElements, Bool.and_eq_true] at accepted
          rw [isOk_expandElements_cons, isOk_expandAll scope entries accepted.1,
            isOk_expandElements scope connective rest accepted.2, Bool.or_true, Bool.and_true]
termination_by structural items

end

mutual

/-- Criteria that expand are without faults, but for those behind an alternative that holds of every
row. -/
theorem accepts_of_isOk (scope : Scope) (criteria : List (String × Filter))
    (expanded : (scope.expandAll criteria).isOk) : scope.accepts .some criteria := by
  cases criteria with
  | nil => rfl
  | cons entry rest =>
      obtain ⟨key, filter⟩ := entry
      rw [isOk_expandAll_cons, Bool.and_eq_true] at expanded
      rw [accepts, Bool.and_eq_true]
      exact ⟨acceptsAt_of_isOk scope key filter expanded.1, accepts_of_isOk scope rest expanded.2⟩
termination_by structural criteria

theorem acceptsAt_of_isOk (scope : Scope) (key : String) (filter : Filter)
    (expanded : (scope.expand key filter).isOk) : scope.acceptsAt .some key filter := by
  cases filter with
  | value value => rwa [isOk_expand_value value .some] at expanded
  | list items =>
      rw [isOk_expand_list] at expanded
      rw [acceptsAt]
      rcases admitsList_cases key items with ⟨connective, isGroup⟩ | same
      · rw [admitsList_group isGroup, Bool.and_eq_true] at expanded
        rw [admitsList_group isGroup, expanded.1, Bool.true_and, Bool.or_eq_true]
        refine (acceptsElements_of_isOk scope connective items expanded.2).imp_right ?_
        rintro ⟨rfl, free⟩
        exact free
      · exact (same _ _).trans expanded
  | object entries =>
      rw [isOk_expand_object] at expanded
      rw [acceptsAt]
      rcases scope.admitsObject_cases key entries with ⟨inner, leads⟩ | same
      · rw [leads] at expanded ⊢
        exact accepts_of_isOk inner entries expanded
      · exact (same _ _).trans expanded
termination_by structural filter

theorem acceptsElements_of_isOk (scope : Scope) (connective : Connective) (items : List Filter)
    (expanded : (scope.expandElements connective items).isOk) :
    scope.acceptsElements .some items ∨
      connective = .disjunction ∧ scope.acceptsFree .some items := by
  cases items with
  | nil => exact .inl rfl
  | cons item rest =>
      cases item with
      | value value => cases expanded
      | list items => cases expanded
      | object entries =>
          rw [isOk_expandElements_cons, Bool.and_eq_true, Bool.or_eq_true, Bool.and_eq_true,
            beq_iff_eq] at expanded
          obtain ⟨expandedFirst, ⟨isDisjunction, isFree⟩ | expandedRest⟩ := expanded
          · refine .inr ⟨isDisjunction, ?_⟩
            rw [acceptsFree, accepts_of_isOk scope entries expandedFirst, isFree]
            rfl
          · rw [acceptsElements, acceptsFree, accepts_of_isOk scope entries expandedFirst,
              Bool.true_and, Bool.true_and, Bool.or_eq_true]
            exact (acceptsElements_of_isOk scope connective rest expandedRest).imp_right
              (And.imp_right .inr)
termination_by structural items

end

end Scope

end QuerySql
