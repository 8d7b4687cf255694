import QuerySql.Proofs.Predicate.Marker
import QuerySql.Proofs.Statement.Built
import QuerySql.Proofs.Statement.Inlined

namespace QuerySql

open Sql Sql.Fragment

@[mk_iff]
structure Dialect.Unmarked (dialect : Dialect) : Prop where
  quote : dialect.quote ≠ '^'
  qualifiers : ∀ entry ∈ dialect.qualifiers, Caretless entry.2

instance : DecidablePred Dialect.Unmarked := fun dialect =>
  decidable_of_iff' _ dialect.unmarked_iff

@[mk_iff]
structure Query.Unmarked (query : Query) : Prop where
  keys : ∀ key ∈ Filter.entryKeys query.criteria, Caretless key
  sort : ∀ entry ∈ query.sort, Caretless entry.1
  groupBy : ∀ key ∈ query.groupBy.getD [], Caretless key
  aliases : ∀ entry ∈ query.instructions, ∀ stage ∈ entry.2.stages, Caretless stage.association

instance : DecidablePred Query.Unmarked := fun query => decidable_of_iff' _ query.unmarked_iff

/-- The keys of the stage itself, apart from those of its criteria. -/
@[mk_iff]
structure Stage.Unmarked (stage : Stage) : Prop where
  parentKey : Caretless stage.parentKey
  childKey : Caretless stage.childKey
  select : ∀ key ∈ stage.select.getD [], Caretless key

instance : DecidablePred Stage.Unmarked := fun stage => decidable_of_iff' _ stage.unmarked_iff

/-- The names that SQL is made of lack the sign: that of the table and those of its columns.  An
association to many rows has no column, and an attribute of another column is not written. -/
@[mk_iff]
structure Table.NamesUnmarked (table : Table) : Prop where
  name : Caretless table.name
  columns : ∀ column ∈ table.columns, Caretless column
  columnName : ∀ entry ∈ table.attributes, ∀ column ∈ entry.2.columnName, Caretless column

instance : DecidablePred Table.NamesUnmarked := fun table =>
  decidable_of_iff' _ table.namesUnmarked_iff

def Schema.NamesUnmarked (schema : Schema) : Prop :=
  ∀ entry ∈ schema.tables, entry.2.NamesUnmarked

instance : DecidablePred Schema.NamesUnmarked := fun schema =>
  inferInstanceAs (Decidable (∀ entry ∈ schema.tables, entry.2.NamesUnmarked))

variable {schema : Schema} {dialect : Dialect} {table : Table} {key : String}

namespace Table

theorem Unmarked.names (unmarked : table.Unmarked) : table.NamesUnmarked where
  name := unmarked.name
  columns := List.forall_mem_map.mpr fun entry member =>
    unmarked.column entry (List.mem_of_mem_filter member)
  columnName := fun entry member column isColumn => by
    have named : entry.2.column entry.1 = column := by rw [Attribute.column, isColumn]; rfl
    exact named ▸ unmarked.column entry member

theorem NamesUnmarked.caretless_key (unmarked : table.NamesUnmarked) (caretless : Caretless key) :
    Caretless (table.column key) := by
  unfold Table.column
  split
  · rename_i name attr resolved
    rw [Attribute.column]
    cases isColumn : attr.columnName with
    | some column => exact unmarked.columnName _ (mem_of_resolve? resolved) column isColumn
    | none =>
        rcases Option.or_eq_some_iff.mp resolved with isName | ⟨_, isColumnName⟩
        · have sameName : name = key := by simpa using List.find?_some isName
          exact sameName ▸ caretless
        · have sameColumn := List.find?_some isColumnName
          rw [isColumn] at sameColumn
          cases sameColumn
  · exact caretless

theorem NamesUnmarked.columnRef (unmarked : table.NamesUnmarked) (caretless : Caretless key) :
    Every Bare (table.columnRef key).fragments :=
  .ref unmarked.name (by decide) (unmarked.caretless_key caretless)

theorem Unmarked.caretless_key (unmarked : table.Unmarked) (caretless : Caretless key) :
    Caretless (table.column key) :=
  unmarked.caretless_column fun _ => caretless

theorem Unmarked.columnRef (unmarked : table.Unmarked) (column : Caretless (table.column key)) :
    Every Bare (table.columnRef key).fragments :=
  .ref unmarked.name (by decide) column

theorem Unmarked.groupKey (unmarked : table.Unmarked) (caretless : Caretless key) :
    Every Bare (table.groupKey key).fragments := by
  unfold Table.groupKey
  split
  · exact unmarked.columnRef (unmarked.caretless_key caretless)
  · exact .cons caretless .nil

end Table

theorem Schema.Unmarked.names (unmarked : schema.Unmarked) : schema.NamesUnmarked :=
  fun entry member => (unmarked entry member).names

theorem Schema.NamesUnmarked.require {name : String} (unmarked : schema.NamesUnmarked)
    (required : schema.require name = .ok table) : table.NamesUnmarked := by
  obtain ⟨entry, member, rfl⟩ := exists_mem_of_require required
  exact unmarked entry member

namespace Tail

theorem bare_of {query : Query} (unmarked : table.Unmarked)
    (sort : ∀ entry ∈ query.sort, Caretless (table.column entry.1))
    (groupBy : ∀ key ∈ query.groupBy.getD [], Caretless key) :
    Every Bare (Tail.of table query).fragments := by
  have counted : ∀ keyword ∈ [" LIMIT ", " OFFSET "], ∀ count,
      Bare (.fixed (keyword ++ Text.decimal count)) := by
    have caretless : ∀ keyword ∈ [" LIMIT ", " OFFSET "], Caretless keyword := by decide
    exact fun keyword member count => (caretless keyword member).append (caretless_decimal count)
  exact every_fragments (by decide) counted
    (List.forall_mem_map.mpr fun key member => unmarked.groupKey (groupBy key member))
    (List.forall_mem_map.mpr fun entry member => unmarked.columnRef (sort entry member))

end Tail

namespace Conditions

theorem unmarked_scope {query : Query} (schemaUnmarked : schema.Unmarked)
    (tableUnmarked : table.Unmarked)
    (aliases : ∀ entry ∈ query.instructions, ∀ stage ∈ entry.2.stages,
      Caretless stage.association) :
    (scope schema table query).Unmarked where
  schema := schemaUnmarked
  table := tableUnmarked
  qualifier := tableUnmarked.name
  aliases := by
    intro entry member caretless
    obtain ⟨⟨attr, instruction⟩, isInstruction, isAlias⟩ := List.mem_filterMap.mp member
    dsimp only at isAlias
    split at isAlias
    · obtain ⟨stage, isFirst, rfl⟩ := Option.map_eq_some_iff.mp isAlias
      rw [Stage.associationName]
      dsimp only
      split
      · exact caretless
      · exact aliases _ isInstruction stage (List.mem_of_head? isFirst)
    · cases isAlias

theorem bare_of {query : Query} {conditions : Conditions} (schemaUnmarked : schema.Unmarked)
    (tableUnmarked : table.Unmarked) (keys : ∀ key ∈ Filter.entryKeys query.criteria, Caretless key)
    (aliases : ∀ entry ∈ query.instructions, ∀ stage ∈ entry.2.stages,
      Caretless stage.association)
    (compiled : of schema table query = .ok conditions) :
    ∀ predicate ∈ conditions.predicates, Every Bare (predicate.fragments dialect) := by
  intro predicate member
  refine Predicate.bare_fragments dialect fun condition isLeaf => ?_
  obtain ⟨leaf, inCriteria, rfl, -⟩ := exists_leaf compiled member isLeaf
  exact Scope.unmarked_leaves _ _ (unmarked_scope schemaUnmarked tableUnmarked aliases) keys leaf
    inCriteria

end Conditions

namespace Population

variable {attr : String} {instruction : Instruction} {population : Population}

theorem bare_aliasedTable (unmarked : dialect.Unmarked) {table qualifier : String}
    (isTable : Caretless table) (isQualifier : Caretless qualifier) :
    Every Bare (aliasedTable dialect table qualifier) := by
  have behind : Every Bare [.fixed " AS ", .quoted qualifier] :=
    .lead (by decide) (.cons isQualifier .nil)
  rw [aliasedTable, tableFragments]
  split
  · rename_i schema isListed
    have isSchema : Caretless schema := unmarked.qualifiers _ (Fields.mem_of_get? isListed)
    exact .append (.cons isSchema (.lead (by decide) (.cons isTable .nil))) behind
  · exact .append (.cons isTable .nil) behind

theorem bare_linkFragments (unmarked : dialect.Unmarked) {link : JunctionLink}
    (isTable : Caretless link.table) (junctionKey : Every Bare link.junctionKey.fragments)
    (childKey : Every Bare link.childKey.fragments) :
    Every Bare (linkFragments dialect link) :=
  (((bare_aliasedTable unmarked isTable isTable).lead (by decide)).link (by decide)
    junctionKey).link (by decide) childKey

theorem bare_childColumns (unmarked : table.NamesUnmarked) {select : Option (List String)}
    (keys : ∀ key ∈ select.getD [], Caretless key) :
    ∀ column ∈ (childColumns table select).map Projected.column,
      Every Bare (column.fragments dialect) := by
  have listed {columns : List String} (caretless : ∀ column ∈ columns, Caretless column) :
      ∀ ref ∈ columns.map (ColumnRef.mk table.name), Every Bare ref.fragments :=
    List.forall_mem_map.mpr fun column member =>
      .ref unmarked.name (by decide) (caretless column member)
  refine List.forall_mem_map.mpr ?_
  unfold childColumns
  split
  · exact listed unmarked.columns
  · exact listed unmarked.columns
  · rename_i keys' _
    refine listed (List.forall_mem_map.mpr fun key member => ?_)
    exact unmarked.caretless_key (keys key (List.mem_of_mem_filter member))

theorem bare_headFragments (unmarked : dialect.Unmarked) (isTable : Caretless population.table)
    (columns : ∀ column ∈ population.columns, Every Bare (column.fragments dialect))
    (link : ∀ link ∈ population.link, Every Bare (linkFragments dialect link))
    (key : Every Bare population.key.fragments) :
    Every Bare (population.headFragments dialect) := by
  have joined : Every Bare ((population.link.map (linkFragments dialect)).getD []) := by
    cases isLink : population.link with
    | none => exact .nil
    | some single => exact link single isLink
  have listed : Every Bare (separated ", " (population.columns.map (·.fragments dialect))) :=
    .separated (by decide) (List.forall_mem_map.mpr columns)
  have source : Every Bare (population.sourceFragments dialect) :=
    ((listed.lead (by decide)).link (by decide)
      (bare_aliasedTable unmarked isTable isTable)).append joined
  rw [headFragments_eq]
  exact source.link (by decide) (key.trail (by decide))

theorem Built.bare_headFragments (built : Built schema attr instruction population)
    (schemaUnmarked : schema.NamesUnmarked) (dialectUnmarked : dialect.Unmarked)
    (stages : ∀ stage ∈ instruction.stages, stage.Unmarked) :
    Every Bare (population.headFragments dialect) := by
  cases built with
  | @perParent hints stage rest child conditions required conditionsOf =>
      have childUnmarked := schemaUnmarked.require required
      obtain ⟨own, -⟩ := List.forall_mem_cons.mp stages
      exact Population.bare_headFragments dialectUnmarked childUnmarked.name
        (bare_childColumns childUnmarked own.select) nofun (childUnmarked.columnRef own.childKey)
  | @throughJunction hints first second rest junction child conditions requiredJunction required
      conditionsOf =>
      have junctionUnmarked := schemaUnmarked.require requiredJunction
      have childUnmarked := schemaUnmarked.require required
      obtain ⟨toJunction, others⟩ := List.forall_mem_cons.mp stages
      obtain ⟨toChild, -⟩ := List.forall_mem_cons.mp others
      have column := junctionUnmarked.caretless_key toJunction.childKey
      have key := junctionUnmarked.columnRef toJunction.childKey
      refine Population.bare_headFragments dialectUnmarked childUnmarked.name ?_ ?_ key
      · refine List.forall_mem_append.mpr ⟨bare_childColumns childUnmarked toChild.select, ?_⟩
        refine List.forall_mem_singleton.mpr (key.append ?_)
        exact .lead (by decide) (.cons (Caretless.append (by decide) column) .nil)
      · rintro link ⟨⟩
        exact bare_linkFragments dialectUnmarked junctionUnmarked.name
          (junctionUnmarked.columnRef toChild.parentKey)
          (childUnmarked.columnRef toChild.childKey)

theorem Built.bare_head (built : Built schema attr instruction population)
    (schemaUnmarked : schema.Unmarked) (dialectUnmarked : dialect.Unmarked)
    (stages : ∀ stage ∈ instruction.stages, stage.Unmarked) :
    Every Bare (population.headFragments dialect) :=
  built.bare_headFragments schemaUnmarked.names dialectUnmarked stages

theorem bare_restFragments
    (predicates : ∀ predicate ∈ population.conditions.predicates,
      Every Bare (predicate.fragments dialect))
    (tail : Every Bare population.conditions.tail.fragments) :
    Every Bare (population.restFragments dialect) := by
  have conjoined : Every Bare (population.conjoined dialect) :=
    List.forall_mem_flatMap.mpr fun predicate member =>
      (predicates predicate member).lead (by decide)
  exact (conjoined.append tail).trail (by decide)

theorem bare_rest {stage : Stage} {child found : Table} (schemaUnmarked : schema.Unmarked)
    (foundUnmarked : found.Unmarked) (criteria : (stage.criteria.getD {}).Unmarked)
    (ordered : (stage.criteria.getD {}).sort = [] → Caretless (found.column child.primaryKey))
    (compiled : Conditions.of schema found (sortedCriteria child stage) =
      .ok population.conditions) :
    Every Bare (population.restFragments dialect) := by
  have tail : population.conditions.tail = Tail.of found (sortedCriteria child stage) := by
    obtain ⟨predicates, _, isConditions⟩ := exists_of_map_eq_ok compiled
    rw [← isConditions]
  refine bare_restFragments ?_ (tail ▸ ?_)
  · refine Conditions.bare_of schemaUnmarked foundUnmarked ?_ ?_ compiled
    · rcases sortedCriteria_cases child stage with ⟨_, same⟩ | ⟨_, same⟩ <;> rw [same] <;>
        exact criteria.keys
    · rcases sortedCriteria_cases child stage with ⟨_, same⟩ | ⟨_, same⟩ <;> rw [same] <;>
        exact criteria.aliases
  · rcases sortedCriteria_cases child stage with ⟨_, same⟩ | ⟨unsorted, same⟩ <;> rw [same]
    · exact Tail.bare_of foundUnmarked
        (fun entry member => foundUnmarked.caretless_key (criteria.sort entry member))
        criteria.groupBy
    · exact Tail.bare_of foundUnmarked
        (List.forall_mem_singleton.mpr (ordered unsorted)) criteria.groupBy

theorem fragments_parameterized (dialect : Dialect) (population : Population) :
    population.fragments { dialect with parameterized := true } = population.fragments dialect := by
  have sameFold : { dialect with parameterized := true }.foldsCase = dialect.foldsCase := rfl
  have predicates (predicate : Predicate) :
      predicate.fragments { dialect with parameterized := true } = predicate.fragments dialect :=
    predicate.fragments_congr sameFold
  rw [fragments, fragments, restFragments, restFragments]
  simp only [predicates]
  rfl

theorem markers_template (notCaret : dialect.quote ≠ '^')
    (head : Every Bare (population.headFragments dialect))
    (rest : Every Bare (population.restFragments dialect)) :
    markers (population.template dialect).text =
      1 + dialect.inlinedMarkers
        (population.template { dialect with parameterized := true }).values := by
  have values : (population.template { dialect with parameterized := true }).values =
      bound (population.fragments dialect) := by
    have emitted : (population.template { dialect with parameterized := true }).values =
        (emitAll { dialect with parameterized := true } {}
          (population.fragments { dialect with parameterized := true })).2.values := rfl
    rw [emitted, emitAll_bound rfl, fragments_parameterized, List.nil_append]
  have written : (population.template dialect).text =
      Fragment.text dialect (population.fragments dialect) := rfl
  have notNil : population.restFragments dialect ≠ [] :=
    List.append_ne_nil_of_right_ne_nil _ (List.cons_ne_nil _ _)
  rw [values, written, fragments]
  exact markers_around_parentKey notCaret head rest population.opens_restFragments notNil

end Population

theorem Instruction.mem_stages {instruction : Instruction} {stage : Stage}
    (isStage : instruction.childStage? = some stage) : stage ∈ instruction.stages := by
  unfold childStage? at isStage
  split at isStage
  · rename_i stages
    cases isStage
    exact stages ▸ List.mem_cons_self
  · rename_i stages
    cases isStage
    exact stages ▸ List.mem_cons_of_mem _ List.mem_cons_self
  · cases isStage

theorem Query.unmarked_empty : ({} : Query).Unmarked where
  keys := List.forall_mem_nil _
  sort := List.forall_mem_nil _
  groupBy := List.forall_mem_nil _
  aliases := List.forall_mem_nil _

namespace Statement

/-- Where no name or key holds the sign that the marker begins with, the statement of a population
has one marker, besides those within the texts that are not bound.  Children that come in the order
of their primary key must be the table that their name finds, or have a key without the sign. -/
theorem markers_population {attr : String} {instruction : Instruction}
    {template : PopulationTemplate} (schemaUnmarked : schema.Unmarked)
    (dialectUnmarked : dialect.Unmarked) (stages : ∀ stage ∈ instruction.stages, stage.Unmarked)
    (criteria : ∀ stage ∈ instruction.stages, ∀ query ∈ stage.criteria, query.Unmarked)
    (compiled : population schema dialect attr instruction = .ok (some template)) :
    ∃ stage child found bound,
      instruction.childStage? = some stage ∧ schema.require stage.child = .ok child ∧
      schema.require child.name = .ok found ∧
      population schema { dialect with parameterized := true } attr instruction =
        .ok (some bound) ∧
      (found = child ∨ (stage.criteria.getD {}).sort ≠ [] ∨ Caretless child.primaryKey →
        markers template.text = 1 + dialect.inlinedMarkers bound.values ∧
        (markers template.text = 1 ↔
          dialect.parameterized ∨ ∀ text, .string text ∈ bound.values → markers text = 0)) := by
  obtain ⟨built?, populated, isTemplate⟩ := exists_of_map_eq_ok compiled
  obtain ⟨built, rfl, rfl⟩ := Option.map_eq_some_iff.mp isTemplate
  have shape := Population.built_of_of? populated
  obtain ⟨_, stage, _, child, found, _, _, _, isStage, required, requiredAgain, conditionsOf⟩ :=
    shape.exists_conditions
  have bound : population schema { dialect with parameterized := true } attr instruction =
      .ok (some (built.template { dialect with parameterized := true })) := by
    rw [population, populated]
    rfl
  refine ⟨stage, child, found, _, isStage, required, requiredAgain, bound, fun ordered => ?_⟩
  have foundUnmarked := schemaUnmarked.require requiredAgain
  have asked : (stage.criteria.getD {}).Unmarked := by
    cases isCriteria : stage.criteria with
    | none => exact Query.unmarked_empty
    | some query => exact criteria stage (Instruction.mem_stages isStage) query isCriteria
  have inOrder (unsorted : (stage.criteria.getD {}).sort = []) :
      Caretless (found.column child.primaryKey) := by
    rcases ordered with rfl | sorted | caretless
    · exact foundUnmarked.caretless_primaryKey
    · exact absurd unsorted sorted
    · exact foundUnmarked.caretless_key caretless
  have head := shape.bare_head schemaUnmarked dialectUnmarked stages
  have rest : Every Bare (built.restFragments dialect) :=
    Population.bare_rest schemaUnmarked foundUnmarked asked inOrder conditionsOf
  have count := Population.markers_template dialectUnmarked.quote head rest
  refine ⟨count, ?_⟩
  rw [count, ← dialect.inlinedMarkers_eq_zero_iff]
  omega

def petSchema : Schema :=
  ({} : Schema).insert "pet" {
    name := ""
    attributes := [
      ("id", { type := some .integer, primaryKey := true }),
      ("owner", .ofType .integer),
      ("name", .ofType .string)] }

def criteriaInstruction (criteria : Criteria) : Instruction :=
  .of .childHoldsKey [{ petStage with criteria := some { filter := some criteria } }]

def markedCriteria : Criteria := [
  ("name", .object [("contains", .value (.string "a^?^\\"))]),
  ("or", .list [
    .object [("name", .value (.string "^?^"))],
    .object [("id", .value (.int 3))]])]

theorem markers_population_sample :
    ∃ template bound,
      petSchema.Unmarked ∧ Dialect.mysql.Unmarked ∧
      (∀ stage ∈ (criteriaInstruction markedCriteria).stages, stage.Unmarked) ∧
      (∀ stage ∈ (criteriaInstruction markedCriteria).stages, ∀ query ∈ stage.criteria,
        query.Unmarked) ∧
      population petSchema .mysql "pets" (criteriaInstruction markedCriteria) =
        .ok (some template) ∧
      population petSchema { Dialect.mysql with parameterized := true } "pets"
        (criteriaInstruction markedCriteria) = .ok (some bound) ∧
      bound.values.length = 3 ∧ markers template.text = 1 + 2 := by
  have schemaUnmarked : petSchema.Unmarked := by decide
  have dialectUnmarked : Dialect.mysql.Unmarked := by decide
  have stages : ∀ stage ∈ (criteriaInstruction markedCriteria).stages, stage.Unmarked := by decide
  have criteria : ∀ stage ∈ (criteriaInstruction markedCriteria).stages, ∀ query ∈ stage.criteria,
      query.Unmarked := by decide
  have compiles : (population petSchema .mysql "pets" (criteriaInstruction markedCriteria)).map
      Option.isSome = .ok true := by decide
  obtain ⟨built?, built, isBuilt⟩ := exists_of_map_eq_ok compiles
  obtain ⟨template, rfl⟩ := Option.isSome_iff_exists.mp isBuilt
  obtain ⟨stage, child, found, bound, isStage, required, _, isBound, counted⟩ :=
    markers_population schemaUnmarked dialectUnmarked stages criteria built
  cases isStage
  let pet := (petSchema.table? "pet").getD { name := "" }
  have isPet : petSchema.require "pet" = .ok pet := by decide
  obtain rfl := Except.ok.inj (isPet.symm.trans required)
  obtain ⟨count, _⟩ := counted (.inr (.inr (by decide)))
  have values : (population petSchema { Dialect.mysql with parameterized := true } "pets"
      (criteriaInstruction markedCriteria)).map (fun bound => bound.map fun bound =>
        (bound.values.length, Dialect.mysql.inlinedMarkers bound.values)) =
      .ok (some (3, 2)) := by decide +kernel
  rw [isBound] at values
  obtain ⟨length, inlined⟩ := Prod.mk.inj (Option.some.inj (Except.ok.inj values))
  rw [inlined] at count
  exact ⟨template, bound, schemaUnmarked, dialectUnmarked, stages, criteria, built, isBound, length,
    count⟩

/-- A name that is written into the text brings a second marker with it. -/
theorem markers_population_inlined :
    petSchema.Unmarked ∧ Dialect.mysql.Unmarked ∧
    (∀ stage ∈ (criteriaInstruction [("name", .value (.string "^?^"))]).stages,
      stage.Unmarked ∧ ∀ query ∈ stage.criteria, query.Unmarked) ∧
    (population petSchema .mysql "pets"
        (criteriaInstruction [("name", .value (.string "^?^"))])).map
      (fun template => template.map fun template => (template.text, markers template.text)) =
      .ok (some ("(SELECT `pet`.`id`, `pet`.`owner`, `pet`.`name` FROM `pet` AS `pet` " ++
        "WHERE `pet`.`owner` = ^?^ AND `pet`.`name` = \"^?^\" ORDER BY `pet`.`id` ASC)", 2)) := by
  decide +kernel

end Statement

end QuerySql
