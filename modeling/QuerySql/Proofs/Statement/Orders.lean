import QuerySql.Proofs.Predicate.Orders
import QuerySql.Statement.Find

namespace QuerySql

namespace Conditions

variable {schema : Schema} {table : Table} {query : Query}

theorem isOk_withFilter (criteria : Criteria) :
    (of schema table (query.withFilter criteria)).isOk =
      ((scope schema table query).expandAll criteria).isOk :=
  isOk_map _ _

theorem isOk_of : (of schema table query).isOk =
    ((scope schema table query).expandAll query.criteria).isOk :=
  isOk_map _ _

/-- A query compiles in every order of its alternatives if and only if none of them is at fault, and
in some order if and only if faults can all stand behind alternatives that hold of every row.  So
the order does not matter if and only if both are the same of the query. -/
theorem isOk_reordered (schema : Schema) (table : Table) (query : Query) :
    ((∀ criteria', query.criteria.Reordered criteria' →
        (of schema table (query.withFilter criteria')).isOk) ↔
      (scope schema table query).accepts .every query.criteria) ∧
    ((∃ criteria', query.criteria.Reordered criteria' ∧
        (of schema table (query.withFilter criteria')).isOk) ↔
      (scope schema table query).accepts .some query.criteria) ∧
    ((∀ criteria', query.criteria.Reordered criteria' →
        (of schema table (query.withFilter criteria')).isOk = (of schema table query).isOk) ↔
      (scope schema table query).accepts .every query.criteria =
        (scope schema table query).accepts .some query.criteria) := by
  simp only [isOk_withFilter]
  rw [isOk_of]
  generalize scope schema table query = scope
  generalize query.criteria = criteria
  have same := Filter.Reordered.refl_entries criteria
  refine ⟨scope.expandAll_every_iff criteria, scope.expandAll_some_iff criteria, ?_⟩
  rw [Bool.eq_iff_iff, ← scope.expandAll_every_iff, ← scope.expandAll_some_iff]
  constructor
  · intro alike
    constructor
    · exact fun every => ⟨criteria, same, every criteria same⟩
    · rintro ⟨chosen, reordered, expanded⟩ criteria' reordered'
      rw [alike criteria' reordered', ← alike chosen reordered, expanded]
  · intro agree criteria' reordered
    rw [Bool.eq_iff_iff]
    constructor
    · exact fun expanded => agree.mpr ⟨criteria', reordered, expanded⟩ criteria same
    · exact fun expanded => agree.mpr ⟨criteria, same, expanded⟩ criteria' reordered

def ageSchema : Schema where
  tables := [("t", { name := "t", attributes := [("age", .ofType .integer)] })]

def alternatives (elements : List Filter) : Query where
  filter := some [("or", .list elements)]

/-- A number is no alternative, but behind one that holds of every row it is not met. -/
theorem isOk_reordered_number :
    (alternatives [.object [], .value (.int 5)]).criteria.Reordered
        (alternatives [.value (.int 5), .object []]).criteria ∧
      (Statement.conditions ageSchema {} "t" (alternatives [.object [], .value (.int 5)])).map
          WrittenConditions.text = .ok "" ∧
      (Statement.conditions ageSchema {} "t" (alternatives [.value (.int 5), .object []])).map
          WrittenConditions.text =
        .error (.malformed (.groupElement .disjunction .scalar)) :=
  ⟨.cons (.shuffled rfl (Filter.Reordered.refl_items _) (.swap _ _ _)) .nil, by decide +kernel,
    by decide +kernel⟩

end Conditions

end QuerySql
