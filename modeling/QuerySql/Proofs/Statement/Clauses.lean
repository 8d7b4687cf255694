import QuerySql.Proofs.Predicate.Leaves
import QuerySql.Proofs.Sql.Inlined
import QuerySql.Proofs.Statement.Conditions

namespace QuerySql

open Sql Sql.Fragment

section Observation

variable {β : Type} {observe : List Fragment → List β}

namespace Sql.Fragment.SeesThrough

theorem append_listClause (sees : SeesThrough observe) {keyword : String}
    (notPoint : keyword ≠ ".") (front : List Fragment) (entries : List (List Fragment)) :
    observe (front ++ Tail.listClause keyword entries) =
      observe front ++ entries.flatMap observe := by
  rw [Tail.listClause]
  by_cases isEmpty : entries.isEmpty
  · rw [if_pos isEmpty, List.isEmpty_iff.mp isEmpty, List.append_nil, List.flatMap_nil,
      List.append_nil]
  · rw [if_neg isEmpty, sees.link _ _ _ notPoint, sees.separated (by decide)]

theorem append_countClause (sees : SeesThrough observe) {keyword : String}
    (long : 1 < keyword.length) (front : List Fragment) (count : Option UInt64) :
    observe (front ++ Tail.countClause keyword count) = observe front := by
  cases count with
  | none => rw [Tail.countClause, List.append_nil]
  | some count =>
      refine sees.trailing (fun isPoint => ?_) front
      have length := congrArg String.length isPoint
      rw [String.length_append] at length
      have pointLength : ".".length = 1 := rfl
      omega

theorem append_tail (sees : SeesThrough observe) (front : List Fragment) (tail : Tail) :
    observe (front ++ tail.fragments) =
      observe front ++ ((tail.groups.flatMap fun group => observe group.fragments) ++
        tail.orders.flatMap fun order => observe order.1.fragments) := by
  have orders (order : ColumnRef × SortDirection) :
      observe (Tail.orderFragments order) = observe order.1.fragments := by
    refine sees.trailing ?_ _
    cases order.2 <;> decide
  rw [Tail.fragments, ← List.append_assoc, ← List.append_assoc, ← List.append_assoc,
    sees.append_countClause (by decide), sees.append_countClause (by decide),
    sees.append_listClause (by decide), sees.append_listClause (by decide), List.flatMap_map,
    List.flatMap_map, List.append_assoc]
  simp only [orders]

theorem tail (sees : SeesThrough observe) (tail : Tail) :
    observe tail.fragments =
      (tail.groups.flatMap fun group => observe group.fragments) ++
        tail.orders.flatMap fun order => observe order.1.fragments := by
  have behindNothing := sees.append_tail [] tail
  rwa [sees.nil] at behindNothing

end Sql.Fragment.SeesThrough

end Observation

theorem Tail.bound_fragments (tail : Tail) : bound tail.fragments = [] := by
  rw [sees_bound.tail, List.append_eq_nil_iff, List.flatMap_eq_nil_iff, List.flatMap_eq_nil_iff]
  constructor
  · intro group _
    cases group <;> rfl
  · intro order _
    rfl

namespace Conditions

variable (dialect : Dialect) (conditions : Conditions)

/-- The conditions as one text. -/
def conjunction : List Fragment :=
  Predicate.conjunction (conditions.predicates.map (Predicate.fragments dialect))

theorem length_emitEach (bindings : Bindings) (predicates : List Predicate) :
    (emitEach dialect bindings predicates).1.length = predicates.length := by
  induction predicates generalizing bindings with
  | nil => rfl
  | cons predicate rest ih => rw [emitEach_cons, List.length_cons, ih, List.length_cons]

theorem write_eq :
    (conditions.write dialect).predicate? =
        (if conditions.predicates.isEmpty then none
        else some (emitAll dialect {} (conditions.conjunction dialect)).1) ∧
      (conditions.write dialect).values =
        (emitAll dialect {} (conditions.conjunction dialect)).2.values := by
  rw [conjunction]
  cases predicates : conditions.predicates with
  | nil =>
      rw [write, predicates]
      exact ⟨rfl, rfl⟩
  | cons predicate rest =>
      have written := @emitEach_eq dialect {} (predicate :: rest)
      rw [write, predicates, ← written]
      exact ⟨rfl, rfl⟩

theorem length_write :
    (conditions.write dialect).predicates.length = conditions.predicates.length :=
  length_emitEach dialect {} conditions.predicates

end Conditions

end QuerySql
