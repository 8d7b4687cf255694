import QuerySql.Proofs.Predicate.Words
import QuerySql.Proofs.Statement.Populations

namespace QuerySql

open Sql Sql.Fragment

variable {schema : Schema} {attr : String} {instruction : Instruction} {population : Population}

namespace Population

/-- The two ways to build a population: from a stage, or from two by way of a junction. -/
inductive Built (schema : Schema) (attr : String) : Instruction → Population → Prop where
  | perParent {hints : Option Json} {stage : Stage} {rest : List Stage} {child : Table}
      {conditions : Conditions} :
      schema.require stage.child = .ok child →
      childConditions schema child stage = .ok conditions →
      Built schema attr ⟨⟨.childHoldsKey, hints⟩, stage :: rest⟩ {
        attr
        columns := (childColumns child stage.select).map .column
        table := child.name
        link := none
        key := child.columnRef stage.childKey
        conditions }
  | throughJunction {hints : Option Json} {first second : Stage} {rest : List Stage}
      {junction child : Table} {conditions : Conditions} :
      schema.require first.child = .ok junction →
      schema.require second.child = .ok child →
      childConditions schema child second = .ok conditions →
      Built schema attr ⟨⟨.junction, hints⟩, first :: second :: rest⟩ {
        attr
        columns := (childColumns child second.select).map .column
          ++ [.renamed (junction.columnRef first.childKey)
            ("___" ++ (junction.columnRef first.childKey).column)]
        table := child.name
        link := some {
          table := junction.name
          junctionKey := junction.columnRef second.parentKey
          childKey := child.columnRef second.childKey }
        key := junction.columnRef first.childKey
        conditions }

theorem built_of_of? (compiled : of? schema attr instruction = .ok (some population)) :
    Built schema attr instruction population := by
  obtain ⟨⟨join, hints⟩, stages⟩ := instruction
  cases join with
  | parentHoldsKey => cases compiled
  | childHoldsKey =>
      obtain ⟨_, populated, isPopulation⟩ := exists_of_map_eq_ok compiled
      obtain ⟨stage, isFirst, built⟩ := exists_of_bind_eq_ok populated
      obtain ⟨child, required, withConditions⟩ := exists_of_bind_eq_ok built
      obtain ⟨conditions, conditionsOf, rfl⟩ := exists_of_map_eq_ok withConditions
      cases isPopulation
      cases stages with
      | nil => cases isFirst
      | cons first rest =>
          cases isFirst
          exact .perParent required conditionsOf
  | junction =>
      match stages with
      | [] | [_] => cases compiled
      | first :: second :: rest =>
          obtain ⟨_, populated, isPopulation⟩ := exists_of_map_eq_ok compiled
          obtain ⟨junction, requiredJunction, built⟩ := exists_of_bind_eq_ok populated
          obtain ⟨child, required, withConditions⟩ := exists_of_bind_eq_ok built
          obtain ⟨conditions, conditionsOf, rfl⟩ := exists_of_map_eq_ok withConditions
          cases isPopulation
          exact .throughJunction requiredJunction required conditionsOf

/-- What a population conditions on, with the owner of the key, the child and the table that the
child's name finds. -/
theorem Built.exists_conditions (built : Built schema attr instruction population) :
    ∃ first stage owner child found, instruction.stages.head? = some first ∧
      schema.require first.child = .ok owner ∧
      population.key = owner.columnRef first.childKey ∧
      instruction.childStage? = some stage ∧ schema.require stage.child = .ok child ∧
      schema.require child.name = .ok found ∧
      Conditions.of schema found (sortedCriteria child stage) = .ok population.conditions := by
  cases built with
  | perParent required conditionsOf =>
      obtain ⟨found, requiredAgain, compiled⟩ := exists_of_bind_eq_ok conditionsOf
      exact ⟨_, _, _, _, found, rfl, required, rfl, rfl, required, requiredAgain, compiled⟩
  | throughJunction requiredOwner required conditionsOf =>
      obtain ⟨found, requiredAgain, compiled⟩ := exists_of_bind_eq_ok conditionsOf
      exact ⟨_, _, _, _, found, rfl, requiredOwner, rfl, rfl, required, requiredAgain, compiled⟩

theorem sortedCriteria_cases (child : Table) (stage : Stage) :
    (stage.criteria.getD {}).sort ≠ [] ∧
        sortedCriteria child stage = stage.criteria.getD {} ∨
      (stage.criteria.getD {}).sort = [] ∧
        sortedCriteria child stage =
          { stage.criteria.getD {} with sort := [(child.primaryKey, .ascending)] } := by
  unfold sortedCriteria
  dsimp only
  split
  · rename_i isEmpty
    exact .inr ⟨List.isEmpty_iff.mp isEmpty, rfl⟩
  · rename_i notEmpty
    exact .inl ⟨fun isEmpty => notEmpty (List.isEmpty_iff.mpr isEmpty), rfl⟩

def sourceFragments (dialect : Dialect) (population : Population) : List Fragment :=
  .fixed "(SELECT " :: separated ", " (population.columns.map (·.fragments dialect))
    ++ .fixed " FROM " :: aliasedTable dialect population.table population.table
    ++ (population.link.map (linkFragments dialect)).getD []

theorem headFragments_eq (dialect : Dialect) (population : Population) :
    population.headFragments dialect =
      population.sourceFragments dialect
        ++ .fixed " WHERE " :: (population.key.fragments ++ [.fixed " = "]) := by
  simp [headFragments, sourceFragments]

def conjoined (dialect : Dialect) (population : Population) : List Fragment :=
  population.conditions.predicates.flatMap fun predicate =>
    .fixed " AND " :: predicate.fragments dialect

theorem speak_conjoined (dialect : Dialect) (population : Population) :
    Speak Predicate.words (population.conjoined dialect) :=
  List.forall_mem_flatMap.mpr fun predicate _ =>
    (predicate.speak_fragments dialect).lead (by decide)

def sourceWords : List String :=
  ["(SELECT ", ", ", " FROM ", ".", " AS ", " INNER JOIN ", " ON ", " = "]

variable (dialect : Dialect)

theorem speak_aliasedTable (table qualifier : String) :
    Speak sourceWords (aliasedTable dialect table qualifier) := by
  have behind : Speak sourceWords [.fixed " AS ", .quoted qualifier] :=
    .lead (by decide) (.cons trivial .nil)
  rw [aliasedTable, tableFragments]
  split
  · exact .append (.cons trivial (.lead (by decide) (.cons trivial .nil))) behind
  · exact .append (.cons trivial .nil) behind

theorem speak_linkFragments (link : JunctionLink) :
    Speak sourceWords (linkFragments dialect link) :=
  (((speak_aliasedTable dialect link.table link.table).lead (by decide)).link (by decide)
    (.ref trivial (by decide) trivial)).link (by decide) (.ref trivial (by decide) trivial)

theorem Built.speak_columns (built : Built schema attr instruction population) :
    ∀ column ∈ population.columns, Speak sourceWords (column.fragments dialect) := by
  have own : ∀ refs : List ColumnRef, ∀ column ∈ refs.map Projected.column,
      Speak sourceWords (column.fragments dialect) := by
    intro refs column member
    obtain ⟨ref, -, rfl⟩ := List.mem_map.mp member
    exact .ref trivial (by decide) trivial
  cases built with
  | perParent => exact own _
  | throughJunction =>
      refine List.forall_mem_append.mpr ⟨own _, List.forall_mem_singleton.mpr ?_⟩
      exact .append (.ref trivial (by decide) trivial) (.lead (by decide) (.cons trivial .nil))

theorem Built.speak_source (built : Built schema attr instruction population) :
    Speak sourceWords (population.sourceFragments dialect) := by
  have columns : ∀ part ∈ population.columns.map (·.fragments dialect), Speak sourceWords part := by
    intro part member
    obtain ⟨column, isColumn, rfl⟩ := List.mem_map.mp member
    exact built.speak_columns dialect column isColumn
  have link : Speak sourceWords ((population.link.map (linkFragments dialect)).getD []) := by
    cases population.link with
    | none => exact .nil
    | some link => exact speak_linkFragments dialect link
  exact (((Every.separated (by decide) columns).lead (by decide)).link (by decide)
    (speak_aliasedTable dialect population.table population.table)).append link

end Population

end QuerySql
