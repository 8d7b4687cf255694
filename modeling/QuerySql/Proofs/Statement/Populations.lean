import QuerySql.Proofs.Statement.Qualifiers

namespace QuerySql

open Sql Sql.Fragment

variable {dialect : Dialect} {schema : Schema} {table : Table}

namespace Schema

def First (picked : String × Table → Bool) (entries : List (String × Table)) (table : Table) :
    Prop :=
  ∃ front identity back, entries = front ++ (identity, table) :: back ∧
    picked (identity, table) ∧ ∀ entry ∈ front, !picked entry

theorem first_iff {picked : String × Table → Bool} {entries : List (String × Table)} :
    First picked entries table ↔ (entries.find? picked).map Prod.snd = some table := by
  rw [Option.map_eq_some_iff]
  constructor
  · rintro ⟨front, identity, back, split, isPicked, others⟩
    exact ⟨(identity, table),
      List.find?_eq_some_iff_append.mpr ⟨isPicked, front, back, split, others⟩, rfl⟩
  · rintro ⟨⟨identity, _⟩, isFirst, rfl⟩
    obtain ⟨isPicked, front, back, split, others⟩ := List.find?_eq_some_iff_append.mp isFirst
    exact ⟨front, identity, back, split, isPicked, others⟩

theorem First.exists_mem {picked : String × Table → Bool} {entries : List (String × Table)}
    (isFirst : First picked entries table) :
    ∃ identity, (identity, table) ∈ entries ∧ picked (identity, table) := by
  obtain ⟨front, identity, back, rfl, isPicked, _⟩ := isFirst
  exact ⟨identity, by simp, isPicked⟩

/-- A name stands for the first table under it as an identity or, where it is no identity, for the
first table that is called so. -/
def StandsFor (schema : Schema) (name : String) (table : Table) : Prop :=
  First (fun entry => entry.1 == name) schema.tables table ∨
    (∀ entry ∈ schema.tables, entry.1 ≠ name) ∧
      First (fun entry => entry.2.name == name) schema.tables table

theorem require_eq_ok_iff {name : String} :
    schema.require name = .ok table ↔ schema.StandsFor name table := by
  have looked : schema.require name = .ok table ↔ schema.table? name = some table := by
    rw [require]
    cases schema.table? name <;> simp
  rw [looked, table?, StandsFor, first_iff, first_iff]
  cases isIdentity : schema.tables.find? fun entry => entry.1 == name with
  | none =>
      have noIdentity : ∀ entry ∈ schema.tables, entry.1 ≠ name := fun entry member =>
        by simpa using List.find?_eq_none.mp isIdentity entry member
      rw [Option.none_or, Option.map_none, iff_false_intro (Option.some_ne_none table).symm,
        false_or, and_iff_right noIdentity]
  | some entry =>
      have known : ¬ ∀ entry ∈ schema.tables, entry.1 ≠ name := fun none =>
        none entry (List.mem_of_find?_eq_some isIdentity)
          (by simpa using List.find?_some isIdentity)
      rw [Option.some_or, iff_false_intro known, false_and, or_false]

/-- A lookup by the name of a table finds that table if its name stands for it. -/
theorem eq_iff_standsFor {found : Table} (required : schema.require table.name = .ok found) :
    found = table ↔ schema.StandsFor table.name table := by
  rw [← require_eq_ok_iff, required]
  exact ⟨congrArg _, Except.ok.inj⟩

theorem eq_of_unique {found : Table} (required : schema.require table.name = .ok found)
    (unique : ∀ entry ∈ schema.tables, entry.1 = table.name ∨ entry.2.name = table.name →
      entry.2 = table) : found = table := by
  rcases require_eq_ok_iff.mp required with isIdentity | ⟨_, isName⟩
  · obtain ⟨identity, member, same⟩ := isIdentity.exists_mem
    exact unique _ member (.inl (by simpa using same))
  · obtain ⟨identity, member, same⟩ := isName.exists_mem
    exact unique _ member (.inr (by simpa using same))

end Schema

namespace Population

theorem bound_aliasedTable (table qualifier : String) :
    bound (aliasedTable dialect table qualifier) = [] := by
  rw [aliasedTable, tableFragments]
  split <;> rfl

theorem bound_projected (entry : Projected) : bound (entry.fragments dialect) = [] := by
  cases entry with
  | column ref => rfl
  | renamed ref name => rfl
  | group key index => cases key <;> rfl
  | calculation kind ref name =>
      rw [Projected.fragments]
      split <;> rfl

theorem bound_headFragments (population : Population) :
    bound (population.headFragments dialect) = [] := by
  have columns : bound (separated ", " (population.columns.map (·.fragments dialect))) = [] := by
    rw [sees_bound.separated (by decide), List.flatMap_map]
    exact List.flatMap_eq_nil_iff.mpr fun column _ => bound_projected column
  have link : bound ((population.link.map (linkFragments dialect)).getD []) = [] := by
    cases population.link with
    | none => rfl
    | some link =>
        rw [Option.map_some, Option.getD_some, linkFragments, sees_bound.link _ _ _ (by decide),
          sees_bound.link _ _ _ (by decide), sees_bound.fixed (by decide), bound_aliasedTable]
        rfl
  rw [headFragments, sees_bound.trailing (by decide), sees_bound.link _ _ _ (by decide),
    bound_append, sees_bound.link _ _ _ (by decide), sees_bound.fixed (by decide), columns, link,
    bound_aliasedTable]
  rfl

theorem conjoined_eq (predicate : Predicate) (rest : List Predicate) :
    ((predicate :: rest).flatMap fun predicate => .fixed " AND " :: predicate.fragments dialect) =
      .fixed " AND " ::
        Predicate.conjunction ((predicate :: rest).map (Predicate.fragments dialect)) := by
  induction rest generalizing predicate with
  | nil => simp [Predicate.conjunction, separated]
  | cons next rest ih =>
      rw [List.flatMap_cons, ih next]
      rfl

theorem emitAll_restFragments (population : Population) :
    emitAll dialect {} (population.restFragments dialect) =
      (((population.conditions.write dialect).predicate?.map (" AND " ++ ·)).getD ""
          ++ (population.conditions.write dialect).tail ++ ")",
        (emitAll dialect {} (population.conditions.conjunction dialect)).2) := by
  have tail (bindings : Bindings) :
      emitAll dialect bindings (population.conditions.tail.fragments ++ [.fixed ")"]) =
        ((population.conditions.write dialect).tail ++ ")", bindings) := by
    rw [emitAll_append, emitAll_of_bound_eq_nil rfl population.conditions.tail.bound_fragments]
    rfl
  rw [(population.conditions.write_eq dialect).1, Conditions.conjunction, restFragments,
    List.append_assoc]
  cases predicates : population.conditions.predicates with
  | nil =>
      rw [List.flatMap_nil, List.nil_append, tail]
      simp [Predicate.conjunction, separated]
  | cons predicate rest =>
      rw [conjoined_eq, List.cons_append, emitAll_cons, emit, emitAll_append, tail]
      simp [String.append_assoc]

theorem template_eq (population : Population) :
    (population.template dialect).text =
        Fragment.text dialect (population.headFragments dialect) ++ parentKeyMarker
          ++ ((population.conditions.write dialect).predicate?.map (" AND " ++ ·)).getD ""
          ++ (population.conditions.write dialect).tail ++ ")" ∧
      (population.template dialect).values = (population.conditions.write dialect).values := by
  have written : emitAll dialect {} (population.fragments dialect) =
      (Fragment.text dialect (population.headFragments dialect) ++ (parentKeyMarker
          ++ (emitAll dialect {} (population.restFragments dialect)).1),
        (emitAll dialect {} (population.restFragments dialect)).2) := by
    rw [fragments, emitAll_append, emitAll_of_bound_eq_nil rfl population.bound_headFragments,
      emitAll_cons, emit]
  rw [template, written, emitAll_restFragments, (population.conditions.write_eq dialect).2]
  simp [String.append_assoc]

end Population

namespace Statement

/-- A population reads the child of its last stage, and it filters and sorts the table that the
child's name stands for.  Outside of association filters its conditions refer to that table only. -/
theorem conditions_population {attr : String} {instruction : Instruction}
    {template : PopulationTemplate}
    (built : population schema dialect attr instruction = .ok (some template)) :
    ∃ stage child found conditions, ∃ compiled : Population,
      instruction.childStage? = some stage ∧ schema.require stage.child = .ok child ∧
      schema.require child.name = .ok found ∧ (found = child ↔ schema.StandsFor child.name child) ∧
      Conditions.of schema found (Population.sortedCriteria child stage) = .ok conditions ∧
      compiled.table = child.name ∧
      template.text =
        Fragment.text dialect (compiled.headFragments dialect) ++ parentKeyMarker
          ++ ((conditions.write dialect).predicate?.map (" AND " ++ ·)).getD ""
          ++ (conditions.write dialect).tail ++ ")" ∧
      template.values = (conditions.write dialect).values ∧
      (∀ qualifier ∈ qualifiers conditions.tail.fragments, qualifier = found.name) ∧
      ∀ predicate ∈ conditions.predicates, ∀ condition ∈ predicate.leaves,
        ∃ leaf ∈ (Conditions.scope schema found (Population.sortedCriteria child stage)).leaves
            (Population.sortedCriteria child stage).criteria,
          leaf.condition = condition ∧
          (leaf.path = [] → ∀ column ∈ condition.column?, column.ref.qualifier = found.name) := by
  obtain ⟨compiled, populated, isTemplate⟩ := exists_of_map_eq_ok built
  obtain ⟨compiled, rfl, rfl⟩ := Option.map_eq_some_iff.mp isTemplate
  obtain ⟨stage, child, isStage, required, isTable, conditionsOf, _⟩ :=
    Population.exists_of_of? populated
  obtain ⟨found, requiredAgain, conditionsOf⟩ := exists_of_bind_eq_ok conditionsOf
  obtain ⟨text, values⟩ := compiled.template_eq
  refine ⟨stage, child, found, compiled.conditions, compiled, isStage, required, requiredAgain,
    Schema.eq_iff_standsFor requiredAgain, conditionsOf, isTable, text, values, ?_, ?_⟩
  · obtain ⟨predicates, _, isConditions⟩ := exists_of_map_eq_ok conditionsOf
    rw [← isConditions]
    exact Tail.qualifiers_of found _
  · intro predicate member condition isLeaf
    obtain ⟨leaf, inCriteria, rfl, qualifies⟩ :=
      Conditions.exists_leaf conditionsOf member isLeaf
    refine ⟨leaf, inCriteria, rfl, fun isOwn column isColumn => ?_⟩
    rw [qualifies column isColumn, isOwn]
    rfl

def petStage : Stage where
  parent := "user"
  parentKey := "id"
  child := "pet"
  childKey := "owner"
  criteria := some { filter := some [("name", .value (.string "Rex"))] }

theorem conditions_population_sample :
    ∃ template child found conditions,
      population sampleSchema {} "pets" (.of .childHoldsKey [petStage]) = .ok (some template) ∧
      sampleSchema.require "pet" = .ok child ∧ sampleSchema.require child.name = .ok found ∧
      found = child ∧
      Conditions.of sampleSchema found (Population.sortedCriteria child petStage) =
        .ok conditions ∧
      template.values = (conditions.write {}).values ∧ template.values.length = 1 ∧
      ∀ qualifier ∈ qualifiers conditions.tail.fragments, qualifier = "pet" := by
  have counted : (population sampleSchema {} "pets" (.of .childHoldsKey [petStage])).map
      (fun template => template.map fun template => template.values.length) = .ok (some 1) := by
    decide
  obtain ⟨built?, built, isCount⟩ := exists_of_map_eq_ok counted
  obtain ⟨template, rfl, count⟩ := Option.map_eq_some_iff.mp isCount
  obtain ⟨stage, child, found, conditions, _, isStage, required, requiredAgain, _, conditionsOf,
    _, _, values, tail, _⟩ := conditions_population built
  obtain rfl : petStage = stage := Option.some.inj isStage
  let pet := (sampleSchema.table? "pet").getD { name := "pet" }
  have isPet : sampleSchema.require "pet" = .ok pet := by decide
  obtain rfl := Except.ok.inj (isPet.symm.trans required)
  have unique : ∀ entry ∈ sampleSchema.tables,
      entry.1 = pet.name ∨ entry.2.name = pet.name → entry.2 = pet := by decide
  obtain rfl := Schema.eq_of_unique requiredAgain unique
  exact ⟨template, pet, pet, conditions, built, required, requiredAgain, rfl, conditionsOf, values,
    count, tail⟩

def shadowingSchema : Schema :=
  (({} : Schema).insert "pet" {
    name := "animal"
    attributes := [
      ("id", { type := some .integer, primaryKey := true }),
      ("owner", .ofType .integer),
      ("name", { type := some .string, columnName := some "pet_name" })] }).insert "animal" {
    name := "beast"
    attributes := [
      ("key", { type := some .integer, primaryKey := true }),
      ("name", { type := some .string, columnName := some "beast_name" })] }

/-- Pets are read from their own table, but filtered and sorted by columns of the beasts. -/
theorem conditions_population_shadowed :
    (population shadowingSchema {} "pets" (.of .childHoldsKey [petStage])).map
        (fun template => template.map PopulationTemplate.text) =
      .ok (some ("(SELECT \"animal\".\"id\", \"animal\".\"owner\", \"animal\".\"pet_name\" " ++
        "FROM \"animal\" AS \"animal\" WHERE \"animal\".\"owner\" = ^?^ " ++
        "AND LOWER(\"beast\".\"beast_name\") = $1 ORDER BY \"beast\".\"id\" ASC)")) ∧
    ((shadowingSchema.require "pet").bind fun child =>
        (Conditions.of shadowingSchema child (Population.sortedCriteria child petStage)).map
          fun conditions => (conditions.write {}).text) =
      .ok "WHERE LOWER(\"animal\".\"pet_name\") = $1 ORDER BY \"animal\".\"id\" ASC" := by
  decide +kernel

end Statement

end QuerySql
