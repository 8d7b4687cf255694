import QuerySql.Proofs.Predicate.Reordered

namespace QuerySql

open QuerySql.Filter

namespace Scope

variable {scope : Scope} {orders : Orders}

def acceptsElement (orders : Orders) (scope : Scope) : Filter → Bool
  | .object entries => scope.accepts orders entries
  | _ => false

def isFree (orders : Orders) (scope : Scope) : Filter → Bool
  | .object entries => scope.accepts orders entries && !scope.constrains entries
  | _ => false

theorem acceptsElements_cons (item : Filter) (rest : List Filter) :
    scope.acceptsElements orders (item :: rest) =
      (scope.acceptsElement orders item && scope.acceptsElements orders rest) := by
  cases item <;> rfl

theorem acceptsElements_eq_all (items : List Filter) :
    scope.acceptsElements orders items = items.all (scope.acceptsElement orders) := by
  induction items with
  | nil => rfl
  | cons item rest ih => rw [acceptsElements_cons, ih, List.all_cons]

theorem acceptsFree_cons (item : Filter) (rest : List Filter) :
    scope.acceptsFree orders (item :: rest) =
      (scope.isFree orders item || scope.acceptsFree orders rest) := by
  cases item <;> rfl

theorem acceptsFree_eq_any (items : List Filter) :
    scope.acceptsFree orders items = items.any (scope.isFree orders) := by
  induction items with
  | nil => rfl
  | cons item rest ih => rw [acceptsFree_cons, ih, List.any_cons]

theorem admitsList_reordered {key : String} {items items' : List Filter}
    (reordered : List.Forall₂ Reordered items items') (elements : Connective → Bool) :
    admitsList key items' elements = admitsList key items elements := by
  simp only [admitsList, isEmpty_eq_of_forall₂ reordered, listValues_reordered reordered]

theorem admitsObject_reordered {key : String} {entries entries' : Criteria}
    (reordered : Criteria.Reordered entries entries') (inside : Scope → Bool) :
    scope.admitsObject key entries' inside = scope.admitsObject key entries inside := by
  simp only [admitsObject, patterns_reordered reordered, operations_reordered reordered,
    associated_reordered reordered]

mutual

theorem accepts_reordered (scope : Scope) (criteria : List (String × Filter)) (criteria' : Criteria)
    (reordered : Criteria.Reordered criteria criteria') :
    scope.accepts orders criteria' = scope.accepts orders criteria := by
  cases criteria with
  | nil =>
      cases reordered
      rfl
  | cons entry rest =>
      obtain ⟨key, filter⟩ := entry
      cases reordered with
      | @cons _ entry' _ rest' first others =>
          obtain ⟨key', filter'⟩ := entry'
          obtain rfl : key' = key := first.key_eq
          rw [accepts, accepts, acceptsAt_reordered scope key' filter filter' first,
            accepts_reordered scope rest rest' others]
termination_by structural criteria

theorem acceptsAt_reordered (scope : Scope) (key : String) (filter filter' : Filter)
    (reordered : EntryReordered (key, filter) (key, filter')) :
    scope.acceptsAt orders key filter' = scope.acceptsAt orders key filter := by
  cases filter with
  | value value =>
      cases reordered with
      | kept _ inside =>
          cases inside
          rfl
  | list items =>
      cases reordered with
      | kept _ inside =>
          cases inside with
          | @list _ items' elements =>
              obtain ⟨sameAll, sameFree⟩ := acceptsElements_reordered scope items items' elements
              rw [acceptsAt, acceptsAt, admitsList_reordered elements, sameAll, sameFree]
      | @shuffled _ _ items' items'' isDisjunction elements order =>
          obtain ⟨sameAll, sameFree⟩ := acceptsElements_reordered scope items items' elements
          rw [acceptsElements_eq_all, order.all_eq, ← acceptsElements_eq_all] at sameAll
          rw [acceptsFree_eq_any, order.any_eq, ← acceptsFree_eq_any] at sameFree
          rw [acceptsAt, acceptsAt, admitsList_group isDisjunction, admitsList_group isDisjunction,
            sameAll, sameFree, ← order.isEmpty_eq, isEmpty_eq_of_forall₂ elements]
  | object entries =>
      cases reordered with
      | kept _ inside =>
          cases inside with
          | @object _ entries' inside =>
              rw [acceptsAt, acceptsAt, admitsObject_reordered inside]
              rcases scope.admitsObject_cases key entries with ⟨inner, leads⟩ | same
              · rw [leads, leads]
                exact accepts_reordered inner entries entries' inside
              · exact same _ _
termination_by structural filter

theorem acceptsElements_reordered (scope : Scope) (items items' : List Filter)
    (elements : List.Forall₂ Reordered items items') :
    scope.acceptsElements orders items' = scope.acceptsElements orders items ∧
      scope.acceptsFree orders items' = scope.acceptsFree orders items := by
  cases items with
  | nil =>
      cases elements
      exact ⟨rfl, rfl⟩
  | cons item rest =>
      cases elements with
      | @cons _ item' _ rest' first others =>
          obtain ⟨sameAll, sameFree⟩ := acceptsElements_reordered scope rest rest' others
          rw [acceptsElements_cons, acceptsElements_cons, acceptsFree_cons, acceptsFree_cons,
            sameAll, sameFree]
          cases item with
          | value value =>
              cases first
              exact ⟨rfl, rfl⟩
          | list items =>
              cases first
              exact ⟨rfl, rfl⟩
          | object entries =>
              cases first with
              | @object _ entries' inside =>
                  rw [acceptsElement, acceptsElement, isFree, isFree,
                    accepts_reordered scope entries entries' inside, constrains_reordered inside]
                  exact ⟨rfl, rfl⟩
termination_by structural items

end

mutual

theorem exists_isOk_expandAll (scope : Scope) (criteria : List (String × Filter))
    (accepted : scope.accepts .some criteria) :
    ∃ criteria', Criteria.Reordered criteria criteria' ∧ (scope.expandAll criteria').isOk := by
  cases criteria with
  | nil => exact ⟨[], .nil, rfl⟩
  | cons entry rest =>
      obtain ⟨key, filter⟩ := entry
      rw [accepts, Bool.and_eq_true] at accepted
      obtain ⟨filter', first, expandedFirst⟩ := exists_isOk_expand scope key filter accepted.1
      obtain ⟨rest', others, expandedRest⟩ := exists_isOk_expandAll scope rest accepted.2
      refine ⟨(key, filter') :: rest', .cons first others, ?_⟩
      rw [isOk_expandAll_cons, expandedFirst, expandedRest, Bool.and_self]
termination_by structural criteria

theorem exists_isOk_expand (scope : Scope) (key : String) (filter : Filter)
    (accepted : scope.acceptsAt .some key filter) :
    ∃ filter', EntryReordered (key, filter) (key, filter') ∧ (scope.expand key filter').isOk := by
  cases filter with
  | value value => exact ⟨.value value, .refl _, (isOk_expand_value value .some).trans accepted⟩
  | list items =>
      rw [acceptsAt] at accepted
      rcases admitsList_cases key items with ⟨connective, isGroup⟩ | same
      · simp only [admitsList_group isGroup, Bool.and_eq_true, Bool.or_eq_true, beq_iff_eq]
          at accepted
        obtain ⟨notEmpty, accepted | ⟨⟨_, rfl⟩, accepted⟩⟩ := accepted
        · obtain ⟨items', elements, expanded⟩ := exists_isOk_expandElements scope items accepted
          refine ⟨.list items', .kept key (.list elements), ?_⟩
          rw [isOk_expand_list, admitsList_group isGroup, isEmpty_eq_of_forall₂ elements, notEmpty,
            expanded connective, Bool.and_self]
        · obtain ⟨items', entries, others, elements, order, expanded, isFree⟩ :=
            exists_free_expandElements scope items accepted
          refine ⟨.list (.object entries :: others), .shuffled isGroup elements order, ?_⟩
          rw [isOk_expand_list, admitsList_group isGroup, isOk_expandElements_cons, expanded,
            isFree]
          rfl
      · exact ⟨.list items, .refl _, isOk_expand_list.trans ((same _ _).trans accepted)⟩
  | object entries =>
      rw [acceptsAt] at accepted
      rcases scope.admitsObject_cases key entries with ⟨inner, leads⟩ | same
      · rw [leads] at accepted
        obtain ⟨entries', inside, expanded⟩ := exists_isOk_expandAll inner entries accepted
        refine ⟨.object entries', .kept key (.object inside), ?_⟩
        rwa [isOk_expand_object, admitsObject_reordered inside, leads]
      · exact ⟨.object entries, .refl _, isOk_expand_object.trans ((same _ _).trans accepted)⟩
termination_by structural filter

theorem exists_isOk_expandElements (scope : Scope) (items : List Filter)
    (accepted : scope.acceptsElements .some items) :
    ∃ items', List.Forall₂ Reordered items items' ∧
      ∀ connective, (scope.expandElements connective items').isOk := by
  cases items with
  | nil => exact ⟨[], .nil, fun _ => rfl⟩
  | cons item rest =>
      cases item with
      | value value => cases accepted
      | list items => cases accepted
      | object entries =>
          rw [acceptsElements, Bool.and_eq_true] at accepted
          obtain ⟨entries', inside, expandedFirst⟩ := exists_isOk_expandAll scope entries accepted.1
          obtain ⟨rest', others, expandedRest⟩ := exists_isOk_expandElements scope rest accepted.2
          refine ⟨.object entries' :: rest', .cons (.object inside) others, fun connective => ?_⟩
          rw [isOk_expandElements_cons, expandedFirst, expandedRest, Bool.or_true, Bool.and_self]
termination_by structural items

theorem exists_free_expandElements (scope : Scope) (items : List Filter)
    (accepted : scope.acceptsFree .some items) :
    ∃ items' entries others, List.Forall₂ Reordered items items' ∧
      items'.Perm (.object entries :: others) ∧
        (scope.expandAll entries).isOk ∧ scope.constrains entries = false := by
  cases items with
  | nil => cases accepted
  | cons item rest =>
      rw [acceptsFree_cons, Bool.or_eq_true] at accepted
      rcases accepted with first | accepted
      · cases item with
        | value value => cases first
        | list items => cases first
        | object entries =>
            rw [isFree, Bool.and_eq_true, Bool.not_eq_true'] at first
            obtain ⟨entries', inside, expanded⟩ := exists_isOk_expandAll scope entries first.1
            exact ⟨.object entries' :: rest, entries', rest,
              .cons (.object inside) (Reordered.refl_items rest), .refl _, expanded,
              (constrains_reordered inside).trans first.2⟩
      · obtain ⟨rest', entries, others, elements, order, free⟩ :=
          exists_free_expandElements scope rest accepted
        exact ⟨item :: rest', entries, item :: others, .cons (.refl item) elements,
          (order.cons item).trans (.swap _ _ _), free⟩
termination_by structural items

end

def ExpandsElement (scope : Scope) (item : Filter) : Prop :=
  ∃ entries, item = .object entries ∧ (scope.expandAll entries).isOk

theorem expandsElement_of_cons {connective : Connective} {item : Filter} {rest : List Filter}
    (expanded : (scope.expandElements connective (item :: rest)).isOk) :
    scope.ExpandsElement item := by
  obtain ⟨entries, rfl⟩ := exists_object_of_isOk expanded
  rw [isOk_expandElements_cons, Bool.and_eq_true] at expanded
  exact ⟨entries, rfl, expanded.1⟩

theorem expandsElement_of_conjunction {items : List Filter}
    (expanded : (scope.expandElements .conjunction items).isOk) :
    ∀ item ∈ items, scope.ExpandsElement item := by
  induction items with
  | nil => nofun
  | cons item rest ih =>
      refine List.forall_mem_cons.mpr ⟨expandsElement_of_cons expanded, ih ?_⟩
      obtain ⟨entries, rfl⟩ := exists_object_of_isOk expanded
      rw [isOk_expandElements_cons, Bool.and_eq_true] at expanded
      exact expanded.2

mutual

theorem accepts_of_every (scope : Scope) (criteria : List (String × Filter))
    (every : ∀ criteria', Criteria.Reordered criteria criteria' →
      (scope.expandAll criteria').isOk) : scope.accepts .every criteria := by
  cases criteria with
  | nil => rfl
  | cons entry rest =>
      obtain ⟨key, filter⟩ := entry
      have both (filter' : Filter) (rest' : Criteria)
          (first : EntryReordered (key, filter) (key, filter'))
          (others : Criteria.Reordered rest rest') :
          (scope.expand key filter').isOk ∧ (scope.expandAll rest').isOk := by
        rw [← Bool.and_eq_true, ← isOk_expandAll_cons]
        exact every _ (.cons first others)
      rw [accepts, Bool.and_eq_true]
      exact ⟨acceptsAt_of_every scope key filter fun filter' first =>
          (both filter' rest first (Reordered.refl_entries rest)).1,
        accepts_of_every scope rest fun rest' others => (both filter rest' (.refl _) others).2⟩
termination_by structural criteria

theorem acceptsAt_of_every (scope : Scope) (key : String) (filter : Filter)
    (every : ∀ filter', EntryReordered (key, filter) (key, filter') →
      (scope.expand key filter').isOk) : scope.acceptsAt .every key filter := by
  have expanded := every filter (.refl _)
  cases filter with
  | value value => rwa [isOk_expand_value value .every] at expanded
  | list items =>
      rw [isOk_expand_list] at expanded
      rw [acceptsAt]
      rcases admitsList_cases key items with ⟨connective, isGroup⟩ | same
      · rw [admitsList_group isGroup, Bool.and_eq_true] at expanded
        have inGroup (items' : List Filter)
            (reordered : EntryReordered (key, .list items) (key, .list items')) :
            (scope.expandElements connective items').isOk := by
          have expanded := every _ reordered
          rw [isOk_expand_list, admitsList_group isGroup, Bool.and_eq_true] at expanded
          exact expanded.2
        have elements := acceptsElements_of_every scope items fun item member item' reordered => by
          obtain ⟨front, back, rfl⟩ := List.append_of_mem member
          have replaced := Reordered.replace front back reordered
          cases connective with
          | conjunction =>
              exact expandsElement_of_conjunction (inGroup _ (.kept key (.list replaced))) item'
                List.mem_append_cons_self
          | disjunction =>
              exact expandsElement_of_cons
                (inGroup _ (.shuffled isGroup replaced List.perm_middle))
        rw [admitsList_group isGroup, expanded.1, elements]
        rfl
      · exact (same _ _).trans expanded
  | object entries =>
      rw [isOk_expand_object] at expanded
      rw [acceptsAt]
      rcases scope.admitsObject_cases key entries with ⟨inner, leads⟩ | same
      · rw [leads]
        refine accepts_of_every inner entries fun entries' inside => ?_
        have expanded' := every _ (.kept key (.object inside))
        rwa [isOk_expand_object, admitsObject_reordered inside, leads] at expanded'
      · exact (same _ _).trans expanded
termination_by structural filter

theorem acceptsElements_of_every (scope : Scope) (items : List Filter)
    (every : ∀ item ∈ items, ∀ item', Reordered item item' → scope.ExpandsElement item') :
    scope.acceptsElements .every items := by
  cases items with
  | nil => rfl
  | cons item rest =>
      obtain ⟨first, others⟩ := List.forall_mem_cons.mp every
      obtain ⟨_, isObject, _⟩ := first item (.refl item)
      cases item with
      | value value => cases isObject
      | list items => cases isObject
      | object entries =>
          rw [acceptsElements, Bool.and_eq_true]
          refine ⟨accepts_of_every scope entries fun entries' inside => ?_,
            acceptsElements_of_every scope rest others⟩
          obtain ⟨_, same, expanded⟩ := first _ (.object inside)
          cases same
          exact expanded
termination_by structural items

end

theorem expandAll_every_iff (scope : Scope) (criteria : Criteria) :
    (∀ criteria', criteria.Reordered criteria' → (scope.expandAll criteria').isOk) ↔
      scope.accepts .every criteria := by
  refine ⟨accepts_of_every scope criteria, fun accepted criteria' reordered => ?_⟩
  rw [← accepts_reordered scope criteria criteria' reordered] at accepted
  exact isOk_expandAll scope criteria' accepted

theorem expandAll_some_iff (scope : Scope) (criteria : Criteria) :
    (∃ criteria', criteria.Reordered criteria' ∧ (scope.expandAll criteria').isOk) ↔
      scope.accepts .some criteria := by
  refine ⟨?_, exists_isOk_expandAll scope criteria⟩
  rintro ⟨criteria', reordered, expanded⟩
  rw [← accepts_reordered scope criteria criteria' reordered]
  exact accepts_of_isOk scope criteria' expanded

end Scope

end QuerySql
