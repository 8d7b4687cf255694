import Mathlib.Data.List.Forall2
import QuerySql.Query.Filter
import QuerySql.Query.Operator

namespace QuerySql

namespace Filter

mutual

/-- The same filter, but for the order of alternatives within it. -/
inductive Reordered : Filter → Filter → Prop
  | value (value : Value) : Reordered (.value value) (.value value)
  | list {items items' : List Filter} (elements : List.Forall₂ Reordered items items') :
      Reordered (.list items) (.list items')
  | object {entries entries' : Criteria} (inside : List.Forall₂ EntryReordered entries entries') :
      Reordered (.object entries) (.object entries')

inductive EntryReordered : String × Filter → String × Filter → Prop
  | kept (key : String) {filter filter' : Filter} (inside : Reordered filter filter') :
      EntryReordered (key, filter) (key, filter')
  | shuffled {key : String} {items items' items'' : List Filter}
      (isDisjunction : CriteriaKey.ofText key = .group .disjunction)
      (elements : List.Forall₂ Reordered items items') (order : items'.Perm items'') :
      EntryReordered (key, .list items) (key, .list items'')

end

end Filter

abbrev Criteria.Reordered : Criteria → Criteria → Prop :=
  List.Forall₂ Filter.EntryReordered

namespace Filter

mutual

theorem Reordered.refl (filter : Filter) : Reordered filter filter := by
  cases filter with
  | value value => exact .value value
  | list items => exact .list (Reordered.refl_items items)
  | object entries => exact .object (Reordered.refl_entries entries)
termination_by structural filter

theorem Reordered.refl_items (items : List Filter) : List.Forall₂ Reordered items items := by
  cases items with
  | nil => exact .nil
  | cons item rest => exact .cons (Reordered.refl item) (Reordered.refl_items rest)
termination_by structural items

theorem Reordered.refl_entries (entries : List (String × Filter)) :
    Criteria.Reordered entries entries := by
  cases entries with
  | nil => exact .nil
  | cons entry rest =>
      obtain ⟨key, filter⟩ := entry
      exact .cons (.kept key (Reordered.refl filter)) (Reordered.refl_entries rest)
termination_by structural entries

end

variable {filter filter' item item' : Filter} {entry entry' : String × Filter}

theorem EntryReordered.refl (entry : String × Filter) : EntryReordered entry entry :=
  .kept entry.1 (.refl entry.2)

theorem Reordered.replace (front back : List Filter) (reordered : Reordered item item') :
    List.Forall₂ Reordered (front ++ item :: back) (front ++ item' :: back) :=
  List.rel_append (Reordered.refl_items front) (.cons reordered (Reordered.refl_items back))

theorem EntryReordered.key_eq (reordered : EntryReordered entry entry') : entry'.1 = entry.1 := by
  cases reordered <;> rfl

theorem EntryReordered.isObject_eq (reordered : EntryReordered entry entry') :
    entry'.2.isObject = entry.2.isObject := by
  cases reordered with
  | kept key inside => cases inside <;> rfl
  | shuffled isDisjunction elements order => rfl

theorem isEmpty_eq_of_forall₂ {items items' : List Filter}
    (elements : List.Forall₂ Reordered items items') : items'.isEmpty = items.isEmpty := by
  cases elements <;> rfl

end Filter

namespace Operator

def spellings : List String :=
  ["<", "lessThan", "<=", "lessThanOrEqual", ">", "greaterThan", ">=", "greaterThanOrEqual", "!",
    "not", "like", "contains", "startsWith", "endsWith"]

theorem ofKey?_eq_none_of_notMem {key : String} (other : key ∉ spellings) :
    ofKey? key = none := by
  simp only [spellings, List.mem_cons, List.not_mem_nil, not_or] at other
  simp [ofKey?, other]

theorem ofKey?_eq_none_of_group {key : String} {connective : Connective}
    (isGroup : CriteriaKey.ofText key = .group connective) : ofKey? key = none := by
  have ofSpelling : ∀ word ∈ spellings,
      CriteriaKey.ofText word = .column word ∨ CriteriaKey.ofText word = .patterns := by decide
  refine ofKey?_eq_none_of_notMem fun member => ?_
  rcases ofSpelling key member with isColumn | arePatterns
  · cases isGroup.symm.trans isColumn
  · cases isGroup.symm.trans arePatterns

end Operator

end QuerySql
