import QuerySql.Proofs.Predicate.Veil
import QuerySql.Proofs.Query.Masked

namespace QuerySql

open Sql

namespace Sql.Fragment

def masked : Fragment → Fragment
  | .operand _ => .operand .null
  | .pattern _ _ => .pattern .like ""
  | fragment => fragment

end Sql.Fragment

def Veil.mask : Veil where
  change := Value.masked
  view := Fragment.masked
  isNull_change := Value.isNull_masked
  isString_change := Value.isString_masked
  view_fixed _ := rfl
  view_operand _ _ := rfl
  view_pattern _ _ _ := rfl

theorem Sql.Fragment.masked_separated (separator : String) (parts : List (List Fragment)) :
    (separated separator parts).map masked =
      separated separator (parts.map (List.map masked)) :=
  Veil.mask.view_separated separator parts

def Predicate.outline (dialect : Dialect) (predicate : Predicate) : List Fragment :=
  (predicate.fragments dialect).map Fragment.masked

namespace Filter

mutual

theorem masked_eq_mapped (filter : Filter) : filter.masked = filter.mapped Value.masked := by
  cases filter with
  | value value => rfl
  | list items => rw [masked, mapped, maskedItems_eq_mapped items]
  | object entries => rw [masked, mapped, maskedEntries_eq_mapped entries]
termination_by structural filter

theorem maskedItems_eq_mapped (items : List Filter) :
    maskedItems items = mappedItems Value.masked items := by
  cases items with
  | nil => rfl
  | cons item rest =>
      rw [maskedItems, mappedItems, masked_eq_mapped item, maskedItems_eq_mapped rest]
termination_by structural items

theorem maskedEntries_eq_mapped (entries : List (String × Filter)) :
    maskedEntries entries = mappedEntries Value.masked entries := by
  cases entries with
  | nil => rfl
  | cons entry rest =>
      obtain ⟨key, filter⟩ := entry
      rw [maskedEntries, mappedEntries, masked_eq_mapped filter, maskedEntries_eq_mapped rest]
termination_by structural entries

end

end Filter

theorem Scope.outline_expandAll (dialect : Dialect) (scope : Scope)
    (criteria : List (String × Filter)) :
    (scope.expandAll (Filter.maskedEntries criteria)).map (List.map (Predicate.outline dialect)) =
      (scope.expandAll criteria).map (List.map (Predicate.outline dialect)) := by
  rw [Filter.maskedEntries_eq_mapped]
  exact Scope.outline_mapped_expandAll Veil.mask dialect scope criteria

end QuerySql
