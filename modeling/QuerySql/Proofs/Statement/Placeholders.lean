import QuerySql.Proofs.Outcome
import QuerySql.Proofs.Sql.Scan
import QuerySql.Statement.Find

namespace QuerySql

open Sql Sql.Fragment

def Query.expressions (table : Table) (query : Query) : List String :=
  (query.groupBy.getD []).filter fun key => (table.resolve? key).isNone

def Query.calculationKeys (query : Query) : List String :=
  query.sum.getD [] ++ query.average.getD [] ++ query.min.getD [] ++ query.max.getD []

/-- The stage whose criteria a population of its own obeys. -/
def Instruction.childStage? (instruction : Instruction) : Option Stage :=
  match instruction.join, instruction.stages with
  | .childHoldsKey, stage :: _ => some stage
  | .junction, _ :: stage :: _ => some stage
  | _, _ => none

def Stage.expressions (schema : Schema) (stage : Stage) : List String :=
  match (schema.table? stage.child).bind fun child => schema.table? child.name with
  | some table => (stage.criteria.getD {}).expressions table
  | none => []

/-- All text of a query that its statements copy. -/
def Statement.copiedTexts (schema : Schema) (name : String) (query : Query) : List String :=
  (match schema.table? name with
    | some table => query.expressions table ++ query.calculationKeys
    | none => [])
  ++ query.instructions.flatMap fun entry =>
      match entry.2.childStage? with
      | some stage => stage.expressions schema
      | none => []

variable {quote : Char} {dialect : Dialect} {schema : Schema} {table : Table} {query : Query}

theorem Schema.table?_of_require {name : String} (required : schema.require name = .ok table) :
    schema.table? name = some table := by
  unfold Schema.require at required
  split at required
  · rename_i found
    rw [found, Except.ok.inj required]
  · cases required

theorem Table.tidy_groupKey {key : String}
    (clean : table.resolve? key = none → (Fragment.verbatim key).Clean quote) :
    Tidy quote (table.groupKey key).fragments := by
  unfold Table.groupKey
  split
  · exact (table.columnRef key).tidy quote
  · rename_i unknown
    exact Tidy.single _ (clean unknown)

theorem Query.clean_of_mem_groupBy {key : String}
    (copied : ∀ text ∈ query.expressions table, (Fragment.verbatim text).Clean quote)
    (member : key ∈ query.groupBy.getD []) (unknown : table.resolve? key = none) :
    (Fragment.verbatim key).Clean quote :=
  copied key (List.mem_filter.mpr ⟨member, by simp [unknown]⟩)

namespace Tail

theorem opens_listClause {keyword : String} {entries : List (List Fragment)}
    (opens : opensApart keyword) : Opens (listClause keyword entries) := by
  unfold listClause
  split
  · simp [Opens]
  · exact opens_fixed opens _

theorem tidy_listClause (keyword : String) {entries : List (List Fragment)}
    (tidy : ∀ entry ∈ entries, Tidy quote entry) (isLead : leads keyword) :
    Tidy quote (listClause keyword entries) := by
  unfold listClause
  split
  · exact .nil
  · exact (Tidy.separated ", " tidy (by decide)).lead keyword isLead

theorem opens_countClause {keyword : String} (count : Option UInt64)
    (opens : opensApart keyword) : Opens (countClause keyword count) := by
  cases count with
  | none => simp [countClause, Opens]
  | some count => exact opens_fixed (opensApart_append opens) []

theorem tidy_countClause (keyword : String) (count : Option UInt64)
    (plain : isPlainText keyword) : Tidy quote (countClause keyword count) := by
  cases count with
  | none => exact .nil
  | some count => exact .fixed (isPlainText_append plain (isPlainText_decimal _))

theorem tidy_orderFragments (order : ColumnRef × SortDirection) :
    Tidy quote (orderFragments order) := by
  obtain ⟨ref, direction⟩ := order
  have isTrail : trails (" " ++ direction.sql) := by cases direction <;> decide
  exact (ref.tidy quote).trail _ isTrail

theorem opens (tail : Tail) : Opens tail.fragments :=
  opens_append
    (opens_append
      (opens_append (opens_listClause (by decide)) (opens_listClause (by decide)))
      (opens_countClause _ (by decide)))
    (opens_countClause _ (by decide))

theorem tidy {tail : Tail} (groups : ∀ group ∈ tail.groups, Tidy quote group.fragments) :
    Tidy quote tail.fragments := by
  have groupsTidy : ∀ entry ∈ tail.groups.map GroupKey.fragments, Tidy quote entry := by
    intro entry member
    obtain ⟨group, inGroups, rfl⟩ := List.mem_map.mp member
    exact groups group inGroups
  have ordersTidy : ∀ entry ∈ tail.orders.map orderFragments, Tidy quote entry := by
    intro entry member
    obtain ⟨order, _, rfl⟩ := List.mem_map.mp member
    exact tidy_orderFragments order
  have grouping := tidy_listClause " GROUP BY " groupsTidy (by decide)
  have ordering := tidy_listClause " ORDER BY " ordersTidy (by decide)
  have limiting : Tidy quote (countClause " LIMIT " tail.limit) :=
    tidy_countClause " LIMIT " tail.limit (by decide)
  have skipping : Tidy quote (countClause " OFFSET " tail.offset) :=
    tidy_countClause " OFFSET " tail.offset (by decide)
  exact ((grouping.append_of_opens ordering (opens_listClause (by decide))).append_of_opens
    limiting (opens_countClause _ (by decide))).append_of_opens
      skipping (opens_countClause _ (by decide))

theorem tidy_of (copied : ∀ text ∈ query.expressions table, (Fragment.verbatim text).Clean quote) :
    Tidy quote (Tail.of table query).fragments := by
  refine tidy fun group member => ?_
  obtain ⟨key, inGroups, rfl⟩ := List.mem_map.mp member
  exact Table.tidy_groupKey (Query.clean_of_mem_groupBy copied inGroups)

end Tail

namespace Projected

def copied : Projected → List String
  | .group (.expression text) _ => [text]
  | .calculation _ _ name => [name]
  | _ => []

theorem tidy {entry : Projected}
    (clean : ∀ text ∈ entry.copied, (Fragment.verbatim text).Clean quote) :
    Tidy quote (entry.fragments dialect) := by
  cases entry with
  | column ref => exact ref.tidy quote
  | renamed ref name => exact (ref.tidy quote).link " AS " (Tidy.quoted name) (by decide)
  | group key index =>
      cases key with
      | column ref => exact ref.tidy quote
      | expression text =>
          have isTrail : trails (" as group" ++ Text.decimal index) :=
            trails_append (by decide) (isPlainText_decimal index)
          exact (Tidy.single _ (clean text List.mem_cons_self)).trail _ isTrail
  | calculation kind ref name =>
      have nameTidy : Tidy quote [.verbatim name] := Tidy.single _ (clean name List.mem_cons_self)
      have isLead : leads (kind.function ++ "(") := by cases kind <;> decide
      have expression := ((ref.tidy quote).lead _ isLead).trail ")" (by decide)
      have cast := (expression.lead "CAST(" (by decide)).trail " AS float)" (by decide)
      unfold fragments
      dsimp only
      split
      · exact cast.link " AS " nameTidy (by decide)
      · exact expression.link " AS " nameTidy (by decide)

end Projected

namespace Selection

theorem mem_calculationKeys {calculation : Calculation} {keys : List String} {key : String}
    (asked : (calculation, keys) ∈ calculations query) (member : key ∈ keys) :
    key ∈ query.calculationKeys := by
  obtain ⟨⟨kind, requested⟩, inList, kept⟩ := List.mem_filterMap.mp asked
  have requestedKeys : requested = some keys := by
    cases requested with
    | none => cases kept
    | some names =>
        cases names with
        | nil => cases kept
        | cons name rest =>
            cases kept
            rfl
  subst requestedKeys
  simp only [List.mem_cons, Prod.mk.injEq, List.not_mem_nil, or_false] at inList
  simp only [Query.calculationKeys, List.mem_append]
  rcases inList with ⟨_, isSum⟩ | ⟨_, isAverage⟩ | ⟨_, isMin⟩ | ⟨_, isMax⟩
  · exact .inl (.inl (.inl (by simpa [← isSum] using member)))
  · exact .inl (.inl (.inr (by simpa [← isAverage] using member)))
  · exact .inl (.inr (by simpa [← isMin] using member))
  · exact .inr (by simpa [← isMax] using member)

theorem copied_groupEntries {keys : List String} {entry : Projected} {text : String}
    (member : entry ∈ groupEntries table keys) (copied : text ∈ entry.copied) :
    text ∈ keys ∧ table.resolve? text = none := by
  obtain ⟨index, bound, rfl⟩ := List.mem_mapIdx.mp member
  unfold Table.groupKey at copied
  split at copied
  · simp [Projected.copied] at copied
  · rename_i unknown
    rw [Projected.copied, List.mem_singleton] at copied
    subst copied
    exact ⟨List.getElem_mem bound, unknown⟩

theorem copied_aggregate {entries : List Projected} {entry : Projected} {text : String}
    (compiled : aggregate table query = .ok entries) (member : entry ∈ entries)
    (copied : text ∈ entry.copied) :
    text ∈ query.expressions table ++ query.calculationKeys := by
  unfold aggregate at compiled
  split at compiled
  · cases compiled
  · rename_i first keys rest asked
    split at compiled
    · cases compiled
    · cases compiled
    · rename_i groups _ grouped
      cases compiled
      rw [List.mem_append]
      rcases List.mem_append.mp member with inGroups | inCalculations
      · obtain ⟨isKey, unknown⟩ := copied_groupEntries inGroups copied
        exact .inl (List.mem_filter.mpr ⟨by simpa [grouped] using isKey, by simp [unknown]⟩)
      · obtain ⟨⟨calculation, names⟩, inAsked, inNames⟩ := List.mem_flatMap.mp inCalculations
        obtain ⟨key, isName, rfl⟩ := List.mem_map.mp inNames
        rw [Projected.copied, List.mem_singleton] at copied
        subst copied
        exact .inr (mem_calculationKeys (by rw [asked]; exact inAsked) isName)

theorem copied_allJoinedColumns {instructions : List (String × Instruction)}
    {entries : List Projected} (compiled : allJoinedColumns schema instructions = .ok entries) :
    ∀ entry ∈ entries, entry.copied = [] := by
  induction instructions generalizing entries with
  | nil =>
      cases compiled
      simp
  | cons entry rest ih =>
      obtain ⟨attr, instruction⟩ := entry
      rw [allJoinedColumns] at compiled
      split at compiled
      · obtain ⟨columns, joining, continued⟩ := exists_of_bind_eq_ok compiled
        obtain ⟨following, others, rfl⟩ := exists_of_map_eq_ok continued
        obtain ⟨stage, _, fromStage⟩ := exists_of_bind_eq_ok joining
        obtain ⟨child, _, rfl⟩ := exists_of_map_eq_ok fromStage
        intro projected member
        rcases List.mem_append.mp member with inColumns | inRest
        · obtain ⟨column, _, rfl⟩ := List.mem_map.mp inColumns
          rfl
        · exact ih others projected inRest
      · exact ih compiled

theorem copied_of {selection : Selection} {entry : Projected} {text : String}
    (selected : of schema table query = .ok selection) (member : entry ∈ selection.entries)
    (copied : text ∈ entry.copied) :
    text ∈ query.expressions table ++ query.calculationKeys := by
  obtain ⟨entries, compiled, rfl⟩ := exists_of_map_eq_ok selected
  split at compiled
  · exact copied_aggregate compiled member copied
  · obtain ⟨joined, joining, rfl⟩ := exists_of_map_eq_ok compiled
    rcases List.mem_append.mp member with own | inJoined
    · obtain ⟨ref, _, rfl⟩ := List.mem_map.mp own
      cases copied
    · rw [copied_allJoinedColumns joining entry inJoined] at copied
      cases copied

theorem tidy {selection : Selection}
    (clean : ∀ entry ∈ selection.entries, ∀ text ∈ entry.copied,
      (Fragment.verbatim text).Clean quote) :
    Tidy quote (selection.fragments dialect) := by
  have entriesTidy : ∀ part ∈ selection.entries.map (·.fragments dialect), Tidy quote part := by
    intro part member
    obtain ⟨entry, inEntries, rfl⟩ := List.mem_map.mp member
    exact Projected.tidy (clean entry inEntries)
  have aliased := tidy_aliasedTable quote dialect selection.table selection.table
  exact (((Tidy.separated ", " entriesTidy (by decide)).lead "SELECT " (by decide)).link " FROM "
    aliased (by decide)).trail " " (by decide)

end Selection

theorem Join.tidy (join : Join) : Tidy quote (join.fragments dialect) :=
  (((tidy_aliasedTable quote dialect join.table join.qualifier).lead "LEFT OUTER JOIN "
    (by decide)).link " ON " (join.parentKey.tidy quote) (by decide)).link " = "
      (join.childKey.tidy quote) (by decide)

namespace Population

theorem tidy_linkFragments (link : JunctionLink) :
    Tidy quote (linkFragments dialect link) :=
  (((tidy_aliasedTable quote dialect link.table link.table).lead " INNER JOIN "
    (by decide)).link " ON " (link.junctionKey.tidy quote) (by decide)).link " = "
      (link.childKey.tidy quote) (by decide)

private theorem tidy_conjoined (quote : Char) (dialect : Dialect) (predicates : List Predicate) :
    Tidy quote (predicates.flatMap fun predicate => .fixed " AND " :: predicate.fragments dialect)
      ∧ Opens (predicates.flatMap fun predicate =>
        .fixed " AND " :: predicate.fragments dialect) := by
  induction predicates with
  | nil => exact ⟨.nil, by simp [Opens]⟩
  | cons predicate rest ih =>
      have predicateTidy := predicate.tidy quote dialect
      rw [List.flatMap_cons]
      exact ⟨(predicateTidy.lead " AND " (by decide)).append_of_opens ih.1 ih.2,
        opens_append (opens_fixed (by decide) _) ih.2⟩

theorem tidy_headFragments {population : Population}
    (plain : ∀ column ∈ population.columns, column.copied = []) :
    Tidy quote (population.headFragments dialect) := by
  have columnsTidy : ∀ part ∈ population.columns.map (·.fragments dialect), Tidy quote part := by
    intro part member
    obtain ⟨column, inColumns, rfl⟩ := List.mem_map.mp member
    exact Projected.tidy (by simp [plain column inColumns])
  have aliased := tidy_aliasedTable quote dialect population.table population.table
  have read := ((Tidy.separated ", " columnsTidy (by decide)).lead "(SELECT " (by decide)).link
    " FROM " aliased (by decide)
  have linked : Tidy quote (.fixed "(SELECT "
      :: Fragment.separated ", " (population.columns.map (·.fragments dialect))
      ++ .fixed " FROM " :: aliasedTable dialect population.table population.table
      ++ (population.link.map (linkFragments dialect)).getD []) := by
    cases population.link with
    | none => exact read.append_of_opens .nil (by simp [Opens])
    | some link => exact read.append_of_opens (tidy_linkFragments link) (opens_fixed (by decide) _)
  exact (linked.link " WHERE " (population.key.tidy quote) (by decide)).trail " = " (by decide)

theorem opens_restFragments (population : Population) :
    Opens (population.restFragments dialect) :=
  opens_append (opens_append (tidy_conjoined '"' dialect population.conditions.predicates).2
    population.conditions.tail.opens) (opens_fixed (by decide) [])

theorem tidy {population : Population} (plain : ∀ column ∈ population.columns, column.copied = [])
    (tailTidy : Tidy quote population.conditions.tail.fragments) :
    Tidy quote (population.fragments dialect) := by
  have conjoined := tidy_conjoined quote dialect population.conditions.predicates
  have rest := (conjoined.1.append_of_opens tailTidy population.conditions.tail.opens).trail ")"
    (by decide)
  have marked : Tidy quote (.parentKey :: population.restFragments dialect) :=
    (Tidy.single .parentKey trivial).append_of_opens rest population.opens_restFragments
  exact (tidy_headFragments plain).append_of_closes marked (closes_fixed (by decide) _)

theorem plain_childColumns (select : Option (List String)) :
    ∀ column ∈ (childColumns table select).map Projected.column, column.copied = [] := by
  intro column member
  obtain ⟨ref, _, rfl⟩ := List.mem_map.mp member
  rfl

theorem tidy_childConditions {child : Table} {stage : Stage} {conditions : Conditions}
    (required : schema.require stage.child = .ok child)
    (compiled : childConditions schema child stage = .ok conditions)
    (copied : ∀ text ∈ stage.expressions schema, (Fragment.verbatim text).Clean quote) :
    Tidy quote conditions.tail.fragments := by
  obtain ⟨table, requiredAgain, conditionsOf⟩ := exists_of_bind_eq_ok compiled
  obtain ⟨predicates, _, rfl⟩ := exists_of_map_eq_ok conditionsOf
  refine Tail.tidy_of fun text member => copied text ?_
  have looked : (schema.table? stage.child).bind (fun child => schema.table? child.name) =
      some table := by
    rw [Schema.table?_of_require required]
    exact Schema.table?_of_require requiredAgain
  have sameGroups : (sortedCriteria child stage).expressions table =
      (stage.criteria.getD {}).expressions table := by
    unfold sortedCriteria
    dsimp only
    split <;> rfl
  rw [Stage.expressions, looked]
  rwa [sameGroups] at member

theorem exists_of_of? {attr : String} {instruction : Instruction} {population : Population}
    (compiled : of? schema attr instruction = .ok (some population)) :
    ∃ stage child, instruction.childStage? = some stage ∧
      schema.require stage.child = .ok child ∧ population.table = child.name ∧
      childConditions schema child stage = .ok population.conditions ∧
      ∀ column ∈ population.columns, column.copied = [] := by
  unfold of? at compiled
  split at compiled
  · cases compiled
  · rename_i isChild
    obtain ⟨perParentPopulation, populated, isPopulation⟩ := exists_of_map_eq_ok compiled
    obtain ⟨stage, isFirst, built⟩ := exists_of_bind_eq_ok populated
    obtain ⟨child, required, withConditions⟩ := exists_of_bind_eq_ok built
    obtain ⟨conditions, conditionsOf, rfl⟩ := exists_of_map_eq_ok withConditions
    cases isPopulation
    have isStage : instruction.childStage? = some stage := by
      unfold Instruction.firstStage at isFirst
      split at isFirst
      · rename_i first rest stages
        cases isFirst
        simp [Instruction.childStage?, isChild, stages]
      · cases isFirst
    exact ⟨stage, child, isStage, required, rfl, conditionsOf, plain_childColumns stage.select⟩
  · rename_i isJunction
    split at compiled
    · rename_i first second rest stages
      obtain ⟨junctionPopulation, populated, isPopulation⟩ := exists_of_map_eq_ok compiled
      obtain ⟨junction, _, built⟩ := exists_of_bind_eq_ok populated
      obtain ⟨child, required, withConditions⟩ := exists_of_bind_eq_ok built
      obtain ⟨conditions, conditionsOf, rfl⟩ := exists_of_map_eq_ok withConditions
      cases isPopulation
      have isStage : instruction.childStage? = some second := by
        simp [Instruction.childStage?, isJunction, stages]
      refine ⟨second, child, isStage, required, rfl, conditionsOf, ?_⟩
      intro column member
      rcases List.mem_append.mp member with own | key
      · exact plain_childColumns second.select column own
      · rw [List.mem_singleton] at key
        subst key
        rfl
    · cases compiled

theorem tidy_of? {attr : String} {instruction : Instruction} {population : Population}
    (compiled : of? schema attr instruction = .ok (some population))
    (copied : ∀ stage, instruction.childStage? = some stage →
      ∀ text ∈ stage.expressions schema, (Fragment.verbatim text).Clean quote) :
    Tidy quote (population.fragments dialect) := by
  obtain ⟨stage, child, isStage, required, _, conditionsOf, plain⟩ := exists_of_of? compiled
  exact tidy plain (tidy_childConditions required conditionsOf (copied stage isStage))

theorem exists_of_mem_all {instructions : List (String × Instruction)}
    {populations : List Population} {population : Population}
    (compiled : all schema instructions = .ok populations) (member : population ∈ populations) :
    ∃ entry ∈ instructions, of? schema entry.1 entry.2 = .ok (some population) := by
  induction instructions generalizing populations with
  | nil =>
      cases compiled
      cases member
  | cons entry rest ih =>
      obtain ⟨attr, instruction⟩ := entry
      rw [all] at compiled
      obtain ⟨first, built, continued⟩ := exists_of_bind_eq_ok compiled
      obtain ⟨others, following, rfl⟩ := exists_of_map_eq_ok continued
      rcases List.mem_append.mp member with isFirst | inRest
      · rw [Option.mem_toList] at isFirst
        cases isFirst
        exact ⟨(attr, instruction), List.mem_cons_self, built⟩
      · obtain ⟨other, inInstructions, built⟩ := ih following inRest
        exact ⟨other, List.mem_cons_of_mem _ inInstructions, built⟩

end Population

namespace FindPlan

/-- The parts of a plan are what they are compiled to on their own. -/
structure Compiled (plan : FindPlan) (schema : Schema) (name : String) (query : Query)
    (table : Table) : Prop where
  required : schema.require name = .ok table
  selection : Selection.of schema table query = .ok plan.selection
  joins : Join.all schema query.instructions = .ok plan.joins
  conditions : Conditions.of schema table query = .ok plan.conditions
  populations : Population.all schema query.instructions = .ok plan.populations

theorem exists_compiled {name : String} {plan : FindPlan}
    (planned : of schema name query = .ok plan) :
    ∃ table, plan.Compiled schema name query table := by
  obtain ⟨table, required, selecting⟩ := exists_of_bind_eq_ok planned
  obtain ⟨selection, selected, joining⟩ := exists_of_bind_eq_ok selecting
  obtain ⟨joins, joined, conditioning⟩ := exists_of_bind_eq_ok joining
  obtain ⟨conditions, conditionsOf, populating⟩ := exists_of_bind_eq_ok conditioning
  obtain ⟨populations, populationsOf, rfl⟩ := exists_of_map_eq_ok populating
  exact ⟨table, required, selected, joined, conditionsOf, populationsOf⟩

theorem compiled_of {name : String} {plan : FindPlan} (required : schema.require name = .ok table)
    (planned : of schema name query = .ok plan) : plan.Compiled schema name query table := by
  obtain ⟨own, compiled⟩ := exists_compiled planned
  obtain rfl := Except.ok.inj (required.symm.trans compiled.required)
  exact compiled

theorem tidy_joinFragments (quote : Char) (dialect : Dialect) (joins : List Join) :
    Tidy quote (joinFragments dialect joins) ∧ Closes (joinFragments dialect joins) := by
  induction joins with
  | nil => exact ⟨.nil, by simp [Closes, joinFragments]⟩
  | cons join rest ih =>
      have spaced : Tidy quote (join.fragments dialect ++ [.fixed " "]) :=
        join.tidy.trail " " (by decide)
      have closes : Closes (join.fragments dialect ++ [.fixed " "]) := closes_fixed (by decide) _
      rw [joinFragments, List.flatMap_cons]
      exact ⟨spaced.append_of_closes ih.1 closes, closes_append closes ih.2⟩

theorem tidy_whereFragments (quote : Char) (dialect : Dialect) (predicates : List Predicate) :
    Tidy quote (whereFragments dialect predicates) ∧
      Closes (whereFragments dialect predicates) := by
  unfold whereFragments
  split
  · exact ⟨.nil, by simp [Closes]⟩
  · have conjunction := Predicate.tidy_conjunction quote dialect predicates
    exact ⟨(conjunction.lead "WHERE " (by decide)).trail " " (by decide),
      closes_fixed (by decide) _⟩

theorem tidy {plan : FindPlan} (selection : Tidy quote (plan.selection.fragments dialect))
    (tail : Tidy quote plan.conditions.tail.fragments) :
    Tidy quote (plan.fragments dialect) := by
  have joins := tidy_joinFragments quote dialect plan.joins
  have conditions := tidy_whereFragments quote dialect plan.conditions.predicates
  have front := selection.link " " joins.1 (by decide)
  have frontCloses : Closes (plan.selection.fragments dialect
      ++ .fixed " " :: joinFragments dialect plan.joins) :=
    closes_append (closes_fixed (by decide) _) (closes_append (closes_fixed (by decide) []) joins.2)
  exact (front.append_of_closes conditions.1 frontCloses).append_of_opens tail
    plan.conditions.tail.opens

end FindPlan

theorem FindPlan.placeholders_write {plan : FindPlan} (parameterized : dialect.parameterized)
    (quoteKind : dialect.quote = '"' ∨ dialect.quote = '`')
    (tidy : Tidy dialect.quote (plan.fragments dialect)) :
    placeholders dialect.quote (plan.write dialect).text =
      numbered (plan.write dialect).values.length := by
  rw [FindPlan.write]
  exact placeholders_emitAll parameterized quoteKind tidy

theorem Population.placeholders_template {population : Population}
    (parameterized : dialect.parameterized)
    (quoteKind : dialect.quote = '"' ∨ dialect.quote = '`')
    (tidy : Tidy dialect.quote (population.fragments dialect)) :
    placeholders dialect.quote (population.template dialect).text =
      numbered (population.template dialect).values.length := by
  rw [Population.template]
  exact placeholders_emitAll parameterized quoteKind tidy

namespace Statement

theorem clean_expressions {name : String}
    (copied : ∀ text ∈ copiedTexts schema name query, (Fragment.verbatim text).Clean quote)
    (required : schema.require name = .ok table) :
    ∀ text ∈ query.expressions table ++ query.calculationKeys,
      (Fragment.verbatim text).Clean quote := by
  intro text member
  refine copied text (List.mem_append.mpr (.inl ?_))
  rwa [Schema.table?_of_require required]

theorem clean_stageExpressions {name : String}
    (copied : ∀ text ∈ copiedTexts schema name query, (Fragment.verbatim text).Clean quote)
    {entry : String × Instruction} (member : entry ∈ query.instructions) {stage : Stage}
    (isStage : entry.2.childStage? = some stage) :
    ∀ text ∈ stage.expressions schema, (Fragment.verbatim text).Clean quote := by
  intro text inStage
  refine copied text (List.mem_append.mpr (.inr (List.mem_flatMap.mpr ⟨entry, member, ?_⟩)))
  rwa [isStage]

/-- A statement and the templates of its populations hold the placeholders of their values, each
numbered from one. -/
theorem placeholders_find {name : String} {statement : FindStatement}
    (parameterized : dialect.parameterized)
    (quoteKind : dialect.quote = '"' ∨ dialect.quote = '`')
    (copied : ∀ text ∈ copiedTexts schema name query,
      '$' ∉ text.toList ∧ dialect.quote ∉ text.toList)
    (found : find schema dialect name query = .ok statement) :
    placeholders dialect.quote statement.text = numbered statement.values.length ∧
      ∀ template ∈ statement.populations,
        placeholders dialect.quote template.text = numbered template.values.length := by
  obtain ⟨plan, planned, rfl⟩ := exists_of_map_eq_ok found
  obtain ⟨table, compiled⟩ := FindPlan.exists_compiled planned
  have clean := clean_expressions copied compiled.required
  constructor
  · have selectionTidy : Tidy dialect.quote (plan.selection.fragments dialect) :=
      Selection.tidy fun entry member text isCopied =>
        clean text (Selection.copied_of compiled.selection member isCopied)
    obtain ⟨predicates, _, isConditions⟩ := exists_of_map_eq_ok compiled.conditions
    have tailTidy : Tidy dialect.quote plan.conditions.tail.fragments := by
      rw [← isConditions]
      exact Tail.tidy_of fun text member => clean text (List.mem_append.mpr (.inl member))
    exact FindPlan.placeholders_write parameterized quoteKind
      (FindPlan.tidy selectionTidy tailTidy)
  · intro template member
    obtain ⟨population, inPopulations, rfl⟩ := List.mem_map.mp member
    obtain ⟨entry, inInstructions, built⟩ :=
      Population.exists_of_mem_all compiled.populations inPopulations
    exact Population.placeholders_template parameterized quoteKind
      (Population.tidy_of? built fun stage isStage =>
        clean_stageExpressions copied inInstructions isStage)

def sampleSchema : Schema where
  tables := [
    ("user", {
      name := "user"
      attributes := [
        ("id", { type := some .integer, primaryKey := true }),
        ("name", { type := some .string, columnName := some "na\"$1" }),
        ("team", Attribute.withForeignKey {} "team" "id")] }),
    ("team", { name := "team", attributes := [("label", { type := some .string })] }),
    ("pet", { name := "pet", attributes := [("id", { primaryKey := true })] })]

def sampleQuery : Query where
  filter := some [
    ("name", .value (.string "A")),
    ("team", .object [
      ("label", .value (.string "Core")),
      ("or", .list [
        .object [("label", .object [("contains", .value (.string "x"))])],
        .object []])]),
    ("id", .list [.value (.int 1), .value (.int 2)])]
  groupBy := some ["day(at)"]
  sum := some ["id"]
  instructions := [("pets", .of .childHoldsKey [{
    parent := "user", parentKey := "id", child := "pet", childKey := "owner",
    criteria := some { loose := [("id", .object [("not", .value (.int 3))])] } }])]

theorem placeholders_find_sample :
    ∃ statement, find sampleSchema {} "user" sampleQuery = .ok statement ∧
      (∀ text ∈ copiedTexts sampleSchema "user" sampleQuery,
        '$' ∉ text.toList ∧ '"' ∉ text.toList) ∧
      statement.values.length = 4 ∧
      placeholders '"' statement.text = ["$1", "$2", "$3", "$4"] ∧
      ∀ template ∈ statement.populations,
        placeholders '"' template.text = numbered template.values.length := by
  have counted : (find sampleSchema {} "user" sampleQuery).map (fun found => found.values.length) =
      .ok 4 := by decide
  obtain ⟨statement, found, count⟩ := exists_of_map_eq_ok counted
  have copied : ∀ text ∈ copiedTexts sampleSchema "user" sampleQuery,
      '$' ∉ text.toList ∧ '"' ∉ text.toList := by decide
  have parity := placeholders_find rfl (.inl rfl) copied found
  rw [count] at parity
  exact ⟨statement, found, copied, count, parity.1, parity.2⟩

end Statement

end QuerySql
