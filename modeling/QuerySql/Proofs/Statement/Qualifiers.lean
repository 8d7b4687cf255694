import QuerySql.Proofs.Predicate.Qualifiers
import QuerySql.Proofs.Statement.Clauses
import QuerySql.Proofs.Statement.Placeholders
import QuerySql.Proofs.Statement.Sources

namespace QuerySql

open Sql Sql.Fragment

variable {dialect : Dialect} {schema : Schema} {table : Table} {query : Query}
  {instructions : List (String × Instruction)}

namespace Projected

def ref? : Projected → Option ColumnRef
  | .column ref | .renamed ref _ | .group (.column ref) _ | .calculation _ ref _ => some ref
  | .group (.expression _) _ => none

theorem qualifiers_fragments (dialect : Dialect) (entry : Projected) :
    qualifiers (entry.fragments dialect) = (entry.ref?.map ColumnRef.qualifier).toList := by
  cases entry with
  | column ref => exact ref.qualifiers_fragments
  | renamed ref name =>
      rw [fragments, sees_qualifiers.link _ _ _ (by decide), ref.qualifiers_fragments]
      rfl
  | group key index =>
      cases key with
      | column ref => exact ref.qualifiers_fragments
      | expression text => rfl
  | calculation kind ref name =>
      have notPoint : kind.function ++ "(" ≠ "." := by cases kind <;> decide
      have expression :
          qualifiers (.fixed (kind.function ++ "(") :: ref.fragments ++ [.fixed ")"]) =
            [ref.qualifier] := by
        rw [List.cons_append, sees_qualifiers.fixed notPoint,
          sees_qualifiers.trailing (by decide), ref.qualifiers_fragments]
      rw [fragments, sees_qualifiers.link _ _ _ (by decide)]
      split
      · rw [List.cons_append, sees_qualifiers.fixed (by decide),
          sees_qualifiers.trailing (by decide), expression]
        rfl
      · rw [expression]
        rfl

end Projected

theorem Table.qualifiers_groupKey (table : Table) (key : String) :
    ∀ qualifier ∈ qualifiers (table.groupKey key).fragments, qualifier = table.name := by
  intro qualifier member
  rw [Table.groupKey] at member
  split at member
  · rw [GroupKey.fragments, ColumnRef.qualifiers_fragments] at member
    exact List.mem_singleton.mp member
  · cases member

theorem Tail.qualifiers_of (table : Table) (query : Query) :
    ∀ qualifier ∈ qualifiers (Tail.of table query).fragments, qualifier = table.name := by
  intro qualifier member
  rw [sees_qualifiers.tail] at member
  rcases List.mem_append.mp member with inGroups | inOrders
  · obtain ⟨group, isGroup, member⟩ := List.mem_flatMap.mp inGroups
    obtain ⟨key, _, rfl⟩ := List.mem_map.mp isGroup
    exact table.qualifiers_groupKey key qualifier member
  · obtain ⟨order, isOrder, member⟩ := List.mem_flatMap.mp inOrders
    obtain ⟨⟨key, direction⟩, _, rfl⟩ := List.mem_map.mp isOrder
    rw [ColumnRef.qualifiers_fragments] at member
    exact List.mem_singleton.mp member

theorem Instruction.head?_stages {instruction : Instruction} {attr : String} {stage : Stage}
    (isFirst : instruction.firstStage attr = .ok stage) :
    instruction.stages.head? = some stage := by
  rw [firstStage] at isFirst
  split at isFirst
  · rename_i stages
    cases isFirst
    rw [stages, List.head?_cons]
  · cases isFirst

namespace Conditions

def joinQualifiers (instructions : List (String × Instruction)) : List String :=
  (joinAliases instructions).map fun entry => joinQualifier entry.2

theorem joinAliases_cons_of_ne {attr : String} {instruction : Instruction}
    (notJoined : instruction.join ≠ .parentHoldsKey) :
    joinAliases ((attr, instruction) :: instructions) = joinAliases instructions :=
  List.filterMap_cons_none (if_neg notJoined)

theorem joinAliases_cons {attr : String} {instruction : Instruction} {stage : Stage}
    (isJoined : instruction.join = .parentHoldsKey)
    (isFirst : instruction.firstStage attr = .ok stage) :
    joinAliases ((attr, instruction) :: instructions) =
      (attr, stage.associationName attr) :: joinAliases instructions := by
  refine List.filterMap_cons_some ?_
  dsimp only
  rw [if_pos isJoined, Instruction.head?_stages isFirst, Option.map_some]

end Conditions

namespace Join

theorem exists_of_of {attr : String} {instruction : Instruction} {join : Join}
    (built : of schema attr instruction = .ok join) :
    ∃ stage parent child, instruction.firstStage attr = .ok stage ∧
      schema.require stage.parent = .ok parent ∧ schema.require stage.child = .ok child ∧
      join = {
        table := child.name
        qualifier := joinQualifier (stage.associationName attr)
        parentKey := parent.columnRef stage.parentKey
        childKey := ⟨joinQualifier (stage.associationName attr), child.column stage.childKey⟩ } := by
  obtain ⟨stage, isFirst, withParent⟩ := exists_of_bind_eq_ok built
  obtain ⟨parent, isParent, withChild⟩ := exists_of_bind_eq_ok withParent
  obtain ⟨child, isChild, rfl⟩ := exists_of_map_eq_ok withChild
  exact ⟨stage, parent, child, isFirst, isParent, isChild, rfl⟩

/-- The joins of a statement have the aliases that its conditions know, and every association to be
joined has one. -/
theorem qualifiers_all {joins : List Join} (joined : all schema instructions = .ok joins) :
    joins.map Join.qualifier = Conditions.joinQualifiers instructions ∧
      ∀ entry ∈ instructions, entry.2.join = .parentHoldsKey →
        ∃ association, (entry.1, association) ∈ Conditions.joinAliases instructions := by
  induction instructions generalizing joins with
  | nil =>
      cases joined
      exact ⟨rfl, by simp⟩
  | cons entry rest ih =>
      obtain ⟨attr, instruction⟩ := entry
      rw [all] at joined
      by_cases isJoined : instruction.join = .parentHoldsKey
      · rw [if_pos isJoined] at joined
        obtain ⟨join, built, following⟩ := exists_of_bind_eq_ok joined
        obtain ⟨others, joinedRest, rfl⟩ := exists_of_map_eq_ok following
        obtain ⟨stage, _, _, isFirst, _, _, rfl⟩ := exists_of_of built
        obtain ⟨sameQualifiers, haveAliases⟩ := ih joinedRest
        rw [Conditions.joinQualifiers, Conditions.joinAliases_cons isJoined isFirst]
        refine ⟨congrArg (joinQualifier (stage.associationName attr) :: ·) sameQualifiers, ?_⟩
        intro other member otherJoined
        rcases List.mem_cons.mp member with rfl | inRest
        · exact ⟨_, List.mem_cons_self⟩
        · obtain ⟨association, isKnown⟩ := haveAliases other inRest otherJoined
          exact ⟨association, List.mem_cons_of_mem _ isKnown⟩
      · rw [if_neg isJoined] at joined
        obtain ⟨sameQualifiers, haveAliases⟩ := ih joined
        rw [Conditions.joinQualifiers, Conditions.joinAliases_cons_of_ne isJoined]
        refine ⟨sameQualifiers, fun other member otherJoined => ?_⟩
        rcases List.mem_cons.mp member with rfl | inRest
        · exact absurd otherJoined isJoined
        · exact haveAliases other inRest otherJoined

theorem keys_of_mem_all {joins : List Join} {join : Join}
    (joined : all schema instructions = .ok joins) (member : join ∈ joins) :
    join.childKey.qualifier = join.qualifier ∧
      ∃ entry ∈ instructions, entry.2.join = .parentHoldsKey ∧
        ∃ stage ∈ entry.2.stages.head?, ∃ parent, schema.require stage.parent = .ok parent ∧
          join.parentKey.qualifier = parent.name := by
  induction instructions generalizing joins with
  | nil =>
      cases joined
      cases member
  | cons entry rest ih =>
      obtain ⟨attr, instruction⟩ := entry
      rw [all] at joined
      by_cases isJoined : instruction.join = .parentHoldsKey
      · rw [if_pos isJoined] at joined
        obtain ⟨first, built, following⟩ := exists_of_bind_eq_ok joined
        obtain ⟨others, joinedRest, rfl⟩ := exists_of_map_eq_ok following
        rcases List.mem_cons.mp member with rfl | inRest
        · obtain ⟨stage, parent, _, isFirst, required, _, rfl⟩ := exists_of_of built
          exact ⟨rfl, _, List.mem_cons_self, isJoined, stage, Instruction.head?_stages isFirst,
            parent, required, rfl⟩
        · obtain ⟨child, other, inInstructions, parent⟩ := ih joinedRest inRest
          exact ⟨child, other, List.mem_cons_of_mem _ inInstructions, parent⟩
      · rw [if_neg isJoined] at joined
        obtain ⟨child, other, inInstructions, parent⟩ := ih joined member
        exact ⟨child, other, List.mem_cons_of_mem _ inInstructions, parent⟩

end Join

namespace Selection

theorem qualifier_allJoinedColumns {entries : List Projected}
    (compiled : allJoinedColumns schema instructions = .ok entries) :
    ∀ entry ∈ entries, ∀ ref ∈ entry.ref?,
      ref.qualifier ∈ Conditions.joinQualifiers instructions := by
  induction instructions generalizing entries with
  | nil =>
      cases compiled
      simp
  | cons entry rest ih =>
      obtain ⟨attr, instruction⟩ := entry
      rw [allJoinedColumns] at compiled
      by_cases isJoined : instruction.join = .parentHoldsKey
      · rw [if_pos isJoined] at compiled
        obtain ⟨columns, joining, continued⟩ := exists_of_bind_eq_ok compiled
        obtain ⟨following, others, rfl⟩ := exists_of_map_eq_ok continued
        obtain ⟨stage, isFirst, fromStage⟩ := exists_of_bind_eq_ok joining
        obtain ⟨child, _, rfl⟩ := exists_of_map_eq_ok fromStage
        rw [Conditions.joinQualifiers, Conditions.joinAliases_cons isJoined isFirst]
        intro projected member ref isRef
        rcases List.mem_append.mp member with inColumns | inRest
        · obtain ⟨column, _, rfl⟩ := List.mem_map.mp inColumns
          cases isRef
          exact List.mem_cons_self
        · exact List.mem_cons_of_mem _ (ih others projected inRest ref isRef)
      · rw [if_neg isJoined] at compiled
        rw [Conditions.joinQualifiers, Conditions.joinAliases_cons_of_ne isJoined]
        exact ih compiled

theorem qualifier_ownColumns (select : Option (List String)) :
    ∀ ref ∈ ownColumns table select, ref.qualifier = table.name := by
  have ofKeys (keys : List String) :
      ∀ ref ∈ keys.map table.columnRef, ref.qualifier = table.name := by
    intro ref member
    obtain ⟨key, _, rfl⟩ := List.mem_map.mp member
    rfl
  intro ref member
  unfold ownColumns at member
  split at member
  · exact ofKeys _ ref member
  · exact ofKeys _ ref member
  · dsimp only at member
    split at member
    · exact ofKeys _ ref member
    · rcases List.mem_cons.mp member with rfl | asked
      · rfl
      · exact ofKeys _ ref asked

theorem qualifier_aggregate {entries : List Projected}
    (compiled : aggregate table query = .ok entries) :
    ∀ entry ∈ entries, ∀ ref ∈ entry.ref?, ref.qualifier = table.name := by
  intro entry member ref isRef
  unfold aggregate at compiled
  split at compiled
  · cases compiled
  · split at compiled
    · cases compiled
    · cases compiled
    · cases compiled
      rcases List.mem_append.mp member with inGroups | inCalculations
      · obtain ⟨index, bound, rfl⟩ := List.mem_mapIdx.mp inGroups
        unfold Table.groupKey at isRef
        split at isRef
        · cases isRef
          rfl
        · cases isRef
      · obtain ⟨⟨calculation, keys⟩, _, inKeys⟩ := List.mem_flatMap.mp inCalculations
        obtain ⟨key, _, rfl⟩ := List.mem_map.mp inKeys
        cases isRef
        rfl

theorem qualifier_of {selection : Selection} (selected : of schema table query = .ok selection) :
    selection.table = table.name ∧ ∀ entry ∈ selection.entries, ∀ ref ∈ entry.ref?,
      ref.qualifier = table.name ∨
        ref.qualifier ∈ Conditions.joinQualifiers query.instructions := by
  obtain ⟨entries, compiled, rfl⟩ := exists_of_map_eq_ok selected
  refine ⟨rfl, fun entry member ref isRef => ?_⟩
  split at compiled
  · exact .inl (qualifier_aggregate compiled entry member ref isRef)
  · obtain ⟨joined, joining, rfl⟩ := exists_of_map_eq_ok compiled
    rcases List.mem_append.mp member with own | inJoined
    · obtain ⟨ownRef, isOwn, rfl⟩ := List.mem_map.mp own
      cases isRef
      exact .inl (qualifier_ownColumns query.select _ isOwn)
    · exact .inr (qualifier_allJoinedColumns joining entry inJoined ref isRef)

end Selection

namespace Conditions

theorem associationQualifier_scope {key : String}
    (known : ∃ association, (key, association) ∈ joinAliases query.instructions) :
    (scope schema table query).associationQualifier key ∈ joinQualifiers query.instructions := by
  -- Several joins may be of this attribute; the lookup finds the first, which is one of them.
  obtain ⟨association, isKnown⟩ := known
  have isSome : ((joinAliases query.instructions).lookup key).isSome :=
    List.lookup_isSome_iff.mpr ⟨_, isKnown, beq_self_eq_true key⟩
  obtain ⟨found, isFound⟩ := Option.isSome_iff_exists.mp isSome
  obtain ⟨front, back, split, _⟩ := List.lookup_eq_some_iff.mp isFound
  have inAliases : (key, found) ∈ joinAliases query.instructions := by
    rw [split]
    exact List.mem_append_right front List.mem_cons_self
  rw [Scope.associationQualifier, scope, Scope.root, isFound, Option.getD_some]
  exact List.mem_map.mpr ⟨_, inAliases, rfl⟩

theorem exists_leaf {conditions : Conditions} (compiled : of schema table query = .ok conditions)
    {predicate : Predicate} (member : predicate ∈ conditions.predicates) {condition : Condition}
    (isLeaf : condition ∈ predicate.leaves) :
    ∃ leaf ∈ (scope schema table query).leaves query.criteria,
      leaf.condition = condition ∧ (scope schema table query).Qualifies leaf := by
  obtain ⟨predicates, expanded, rfl⟩ := exists_of_map_eq_ok compiled
  have isAsked := (Scope.leaves_expandAll _ query.criteria predicates expanded).subset
    (List.mem_flatMap.mpr ⟨predicate, member, isLeaf⟩)
  obtain ⟨leaf, inCriteria, isCondition⟩ := List.mem_map.mp isAsked
  exact ⟨leaf, inCriteria, isCondition, Scope.qualifies_leaves _ query.criteria leaf inCriteria⟩

theorem qualifier_of {conditions : Conditions} (compiled : of schema table query = .ok conditions)
    (filters : ∀ leaf ∈ (scope schema table query).leaves query.criteria,
      leaf.path = [] ∨ ∃ key, leaf.path = [key] ∧
        ∃ association, (key, association) ∈ joinAliases query.instructions) :
    ∀ predicate ∈ conditions.predicates, ∀ qualifier ∈ qualifiers (predicate.fragments dialect),
      qualifier = table.name ∨ qualifier ∈ joinQualifiers query.instructions := by
  intro predicate member qualifier isQualifier
  rw [predicate.qualifiers_fragments] at isQualifier
  obtain ⟨column, onColumn, rfl⟩ := List.mem_map.mp isQualifier
  obtain ⟨condition, isLeaf, isColumn⟩ := List.mem_filterMap.mp onColumn
  obtain ⟨leaf, inCriteria, rfl, qualifies⟩ := exists_leaf compiled member isLeaf
  rw [qualifies column isColumn]
  rcases filters leaf inCriteria with isOwn | ⟨key, inFilter, known⟩
  · rw [isOwn]
    exact .inl rfl
  · rw [inFilter]
    exact .inr (associationQualifier_scope known)

end Conditions

theorem qualifiers_aliasedTable (dialect : Dialect) (table qualifier : String) :
    qualifiers (aliasedTable dialect table qualifier) =
      (dialect.qualifiers.lookup table).toList := by
  rw [aliasedTable, tableFragments]
  cases dialect.qualifiers.lookup table <;> rfl

theorem Selection.qualifiers_fragments (dialect : Dialect) (selection : Selection) :
    qualifiers (selection.fragments dialect) =
      (selection.entries.flatMap fun entry => qualifiers (entry.fragments dialect))
        ++ (dialect.qualifiers.lookup selection.table).toList := by
  rw [fragments, sees_qualifiers.trailing (by decide), sees_qualifiers.link _ _ _ (by decide),
    sees_qualifiers.fixed (by decide), sees_qualifiers.separated (by decide), List.flatMap_map,
    qualifiers_aliasedTable]

theorem Join.qualifiers_fragments (dialect : Dialect) (join : Join) :
    qualifiers (join.fragments dialect) =
      (dialect.qualifiers.lookup join.table).toList
        ++ [join.parentKey.qualifier, join.childKey.qualifier] := by
  rw [fragments, sees_qualifiers.link _ _ _ (by decide), sees_qualifiers.link _ _ _ (by decide),
    sees_qualifiers.fixed (by decide), qualifiers_aliasedTable, ColumnRef.qualifiers_fragments,
    ColumnRef.qualifiers_fragments, List.append_assoc]
  rfl

namespace FindPlan

/-- The schemas that a dialect puts in front of the tables that a statement reads. -/
def schemas (dialect : Dialect) (plan : FindPlan) : List String :=
  (plan.selection.table :: plan.joins.map Join.table).filterMap (List.lookup · dialect.qualifiers)

/-- The parts of a statement that refer to columns: what it projects, what it joins on, its
conditions, and its groups and order. -/
def references (dialect : Dialect) (plan : FindPlan) : List (List Fragment) :=
  plan.selection.entries.map (·.fragments dialect)
    ++ plan.joins.flatMap (fun join => [join.parentKey.fragments, join.childKey.fragments])
    ++ plan.conditions.predicates.map (·.fragments dialect)
    ++ [plan.conditions.tail.fragments]

variable {plan : FindPlan}

theorem qualifiers_append_joinFragments (front : List Fragment) (joins : List Join) :
    qualifiers (front ++ .fixed " " :: joinFragments dialect joins) =
      qualifiers front ++ joins.flatMap fun join => qualifiers (join.fragments dialect) := by
  induction joins generalizing front with
  | nil =>
      rw [joinFragments, List.flatMap_nil, sees_qualifiers.trailing (by decide), List.flatMap_nil,
        List.append_nil]
  | cons join rest ih =>
      have following := ih (front ++ .fixed " " :: join.fragments dialect)
      rw [joinFragments, sees_qualifiers.link front _ _ (by decide)] at following
      rw [List.flatMap_cons, ← List.append_assoc, ← following, joinFragments, List.flatMap_cons]
      simp only [List.append_assoc, List.cons_append, List.nil_append]

theorem qualifiers_append_whereFragments (front : List Fragment) (predicates : List Predicate) :
    qualifiers (front ++ whereFragments dialect predicates) =
      qualifiers front ++
        predicates.flatMap fun predicate => qualifiers (predicate.fragments dialect) := by
  rw [whereFragments]
  by_cases isEmpty : predicates.isEmpty
  · rw [if_pos isEmpty, List.isEmpty_iff.mp isEmpty, List.flatMap_nil, List.append_nil,
      List.append_nil]
  · rw [if_neg isEmpty, ← List.append_assoc, sees_qualifiers.trailing (by decide),
      sees_qualifiers.link _ _ _ (by decide), sees_qualifiers.conjunction, List.flatMap_map]

theorem flatMap_qualifiers_references :
    (plan.references dialect).flatMap qualifiers =
      (plan.selection.entries.flatMap fun entry => qualifiers (entry.fragments dialect))
        ++ (plan.joins.flatMap fun join => [join.parentKey.qualifier, join.childKey.qualifier])
        ++ (plan.conditions.predicates.flatMap fun predicate =>
          qualifiers (predicate.fragments dialect))
        ++ qualifiers plan.conditions.tail.fragments := by
  simp only [references, List.flatMap_append, List.flatMap_map, List.flatMap_assoc,
    List.flatMap_cons, List.flatMap_nil, List.append_nil, ColumnRef.qualifiers_fragments,
    List.singleton_append]

/-- A name in front of a point stands in one of the parts that refer to columns, or it is a schema
in front of a table. -/
theorem mem_qualifiers_fragments {name : String}
    (member : name ∈ qualifiers (plan.fragments dialect)) :
    (∃ part ∈ plan.references dialect, name ∈ qualifiers part) ∨ name ∈ plan.schemas dialect := by
  have ofSchema {table : String}
      (inTables : table ∈ plan.selection.table :: plan.joins.map Join.table)
      (isSchema : name ∈ (List.lookup table dialect.qualifiers).toList) :
      name ∈ plan.schemas dialect :=
    List.mem_filterMap.mpr ⟨table, inTables, Option.mem_toList.mp isSchema⟩
  rw [fragments, sees_qualifiers.append_tail, ← sees_qualifiers.tail,
    qualifiers_append_whereFragments, qualifiers_append_joinFragments,
    Selection.qualifiers_fragments] at member
  simp only [List.mem_append, List.mem_flatMap, Join.qualifiers_fragments] at member
  rw [← List.mem_flatMap, flatMap_qualifiers_references]
  simp only [List.mem_append, List.mem_flatMap]
  obtain (((projected | isSchema) | ⟨join, isJoin, isSchema | inJoin⟩) | inWhere) | inTail := member
  · exact .inl (.inl (.inl (.inl projected)))
  · exact .inr (ofSchema List.mem_cons_self isSchema)
  · exact .inr (ofSchema (List.mem_cons_of_mem _ (List.mem_map.mpr ⟨join, isJoin, rfl⟩)) isSchema)
  · exact .inl (.inl (.inl (.inr ⟨join, isJoin, inJoin⟩)))
  · exact .inl (.inl (.inr inWhere))
  · exact .inl (.inr inTail)

/-- The parts of a statement refer to its own table or to what is joined to it. -/
theorem qualifier_references {name : String} (compiled : plan.Compiled schema name query table)
    (parents : ∀ entry ∈ query.instructions, entry.2.join = .parentHoldsKey →
      ∀ stage ∈ entry.2.stages.head?, schema.require stage.parent = .ok table)
    (filters : ∀ leaf ∈ (Conditions.scope schema table query).leaves query.criteria,
      leaf.path = [] ∨
        ∃ entry ∈ query.instructions, entry.2.join = .parentHoldsKey ∧ leaf.path = [entry.1]) :
    ∀ part ∈ plan.references dialect, ∀ qualifier ∈ qualifiers part,
      qualifier = table.name ∨ qualifier ∈ Conditions.joinQualifiers query.instructions := by
  obtain ⟨sameAliases, haveAliases⟩ := Join.qualifiers_all compiled.joins
  have onAssociations : ∀ leaf ∈ (Conditions.scope schema table query).leaves query.criteria,
      leaf.path = [] ∨ ∃ key, leaf.path = [key] ∧
        ∃ association, (key, association) ∈ Conditions.joinAliases query.instructions := by
    intro leaf isLeaf
    rcases filters leaf isLeaf with isOwn | ⟨entry, inInstructions, isJoined, inFilter⟩
    · exact .inl isOwn
    · exact .inr ⟨entry.1, inFilter, haveAliases entry inInstructions isJoined⟩
  intro part isPart qualifier isQualifier
  have referred := List.mem_flatMap.mpr ⟨part, isPart, isQualifier⟩
  rw [flatMap_qualifiers_references] at referred
  simp only [List.mem_append, List.mem_flatMap] at referred
  obtain ((⟨entry, isEntry, referred⟩ | ⟨join, isJoin, referred⟩) |
    ⟨predicate, isPredicate, referred⟩) | referred := referred
  · rw [entry.qualifiers_fragments] at referred
    obtain ⟨ref, isRef, rfl⟩ := Option.map_eq_some_iff.mp (Option.mem_toList.mp referred)
    exact (Selection.qualifier_of compiled.selection).2 entry isEntry ref isRef
  · obtain ⟨ownAlias, entry, inInstructions, isJoined, stage, isFirst, parent, isParent,
      parentName⟩ := Join.keys_of_mem_all compiled.joins isJoin
    obtain rfl :=
      Except.ok.inj ((parents entry inInstructions isJoined stage isFirst).symm.trans isParent)
    rcases List.mem_pair.mp referred with rfl | rfl
    · exact .inl parentName
    · rw [ownAlias, ← sameAliases]
      exact .inr (List.mem_map.mpr ⟨join, isJoin, rfl⟩)
  · exact Conditions.qualifier_of compiled.conditions onAssociations predicate isPredicate qualifier
      referred
  · obtain ⟨predicates, _, isConditions⟩ := exists_of_map_eq_ok compiled.conditions
    rw [← isConditions] at referred
    exact .inl (Tail.qualifiers_of table query qualifier referred)

end FindPlan

namespace Statement

/-- What a statement refers to is declared in it, if its joins start from the table that it reads
and its criteria filter on associations that are joined, though not on associations of these: every
qualifier of a column is named behind the `FROM` or a join of the statement, which name the
statement's own table and the aliases of its joins, and no other name stands in front of a point
than the schema of a table. -/
theorem qualifiers_find {name : String} {statement : FindStatement}
    (required : schema.require name = .ok table)
    (parents : ∀ entry ∈ query.instructions, entry.2.join = .parentHoldsKey →
      ∀ stage ∈ entry.2.stages.head?, schema.require stage.parent = .ok table)
    (filters : ∀ leaf ∈ (Conditions.scope schema table query).leaves query.criteria,
      leaf.path = [] ∨
        ∃ entry ∈ query.instructions, entry.2.join = .parentHoldsKey ∧ leaf.path = [entry.1])
    (found : find schema dialect name query = .ok statement) :
    ∃ plan, FindPlan.of schema name query = .ok plan ∧ statement = plan.write dialect ∧
      statement.text = (emitAll dialect {} (plan.fragments dialect)).1 ∧
      statement.values = (emitAll dialect {} (plan.fragments dialect)).2.values ∧
      plan.selection.table = table.name ∧
      declared (plan.fragments dialect) = table.name :: plan.joins.map Join.qualifier ∧
      (∀ part ∈ plan.references dialect, ∀ qualifier ∈ qualifiers part,
        qualifier ∈ declared (plan.fragments dialect)) ∧
      ∀ qualifier ∈ qualifiers (plan.fragments dialect),
        qualifier ∈ declared (plan.fragments dialect) ∨ qualifier ∈ plan.schemas dialect := by
  obtain ⟨plan, planned, rfl⟩ := exists_of_map_eq_ok found
  have compiled := FindPlan.compiled_of required planned
  have ownTable := (Selection.qualifier_of compiled.selection).1
  have declares : declared (plan.fragments dialect) =
      table.name :: plan.joins.map Join.qualifier := by
    rw [FindPlan.declared_fragments, ownTable]
  have references : ∀ part ∈ plan.references dialect, ∀ qualifier ∈ qualifiers part,
      qualifier ∈ declared (plan.fragments dialect) := by
    intro part isPart qualifier isQualifier
    rw [declares, (Join.qualifiers_all compiled.joins).1]
    exact List.mem_cons.mpr
      (FindPlan.qualifier_references compiled parents filters part isPart qualifier isQualifier)
  refine ⟨plan, planned, rfl, rfl, rfl, ownTable, declares, references,
    fun qualifier isQualifier => ?_⟩
  rcases FindPlan.mem_qualifiers_fragments isQualifier with ⟨part, isPart, inPart⟩ | isSchema
  · exact .inl (references part isPart qualifier inPart)
  · exact .inr isSchema

def joinedQuery : Query where
  filter := some [
    ("or", .list [
      .object [("team", .object [("label", .value (.string "Core"))])],
      .object [("name", .value (.string "A")), ("team", .object [("label", .value .null)])]])]
  sort := [("name", .descending)]
  instructions := [
    ("team", .of .parentHoldsKey [{
      parent := "user", parentKey := "team", child := "team", childKey := "id" }]),
    ("team", .of .parentHoldsKey [{
      parent := "user", parentKey := "team", child := "team", childKey := "id",
      association := "squad" }])]

def teamDialect : Dialect := Dialect.postgres.withQualifier "team" "crm"

def joinedText : String :=
  "SELECT \"user\".\"id\", \"user\".\"na\"\"$1\", \"user\".\"team\", "
    ++ "\"__team\".\"label\" AS \"team___label\", \"__squad\".\"label\" AS \"squad___label\" "
    ++ "FROM \"user\" AS \"user\"  "
    ++ "LEFT OUTER JOIN \"crm\".\"team\" AS \"__team\" ON \"user\".\"team\" = \"__team\".\"id\" "
    ++ "LEFT OUTER JOIN \"crm\".\"team\" AS \"__squad\" ON \"user\".\"team\" = \"__squad\".\"id\" "
    ++ "WHERE ((LOWER(\"__team\".\"label\") = $1) OR "
    ++ "(LOWER(\"user\".\"na\"\"$1\") = $2 AND \"__team\".\"label\" IS NULL))  "
    ++ "ORDER BY \"user\".\"na\"\"$1\" DESC"

theorem qualifiers_find_sample :
    ∃ table statement, ∃ plan : FindPlan, sampleSchema.require "user" = .ok table ∧
      find sampleSchema teamDialect "user" joinedQuery = .ok statement ∧
      (∀ entry ∈ joinedQuery.instructions, entry.2.join = .parentHoldsKey →
        ∀ stage ∈ entry.2.stages.head?, sampleSchema.require stage.parent = .ok table) ∧
      (∀ leaf ∈ (Conditions.scope sampleSchema table joinedQuery).leaves joinedQuery.criteria,
        leaf.path = [] ∨ ∃ entry ∈ joinedQuery.instructions,
          entry.2.join = .parentHoldsKey ∧ leaf.path = [entry.1]) ∧
      statement.text = joinedText ∧
      statement.values.map Value.string? = [some "core", some "a"] ∧
      statement.text = (emitAll teamDialect {} (plan.fragments teamDialect)).1 ∧
      declared (plan.fragments teamDialect) = ["user", "__team", "__squad"] ∧
      "__squad" ∈ qualifiers (plan.fragments teamDialect) ∧
      plan.schemas teamDialect = ["crm", "crm"] ∧
      ∀ qualifier ∈ qualifiers (plan.fragments teamDialect),
        qualifier ∈ ["user", "__team", "__squad"] ∨ qualifier ∈ ["crm", "crm"] := by
  let user := (sampleSchema.table? "user").getD { name := "user" }
  have required : sampleSchema.require "user" = .ok user := by decide
  have parents : ∀ entry ∈ joinedQuery.instructions, entry.2.join = .parentHoldsKey →
      ∀ stage ∈ entry.2.stages.head?, sampleSchema.require stage.parent = .ok user := by decide
  have filters : ∀ leaf ∈ (Conditions.scope sampleSchema user joinedQuery).leaves
      joinedQuery.criteria, leaf.path = [] ∨ ∃ entry ∈ joinedQuery.instructions,
        entry.2.join = .parentHoldsKey ∧ leaf.path = [entry.1] := by decide
  have written : (find sampleSchema teamDialect "user" joinedQuery).map (fun statement =>
      (statement.text, statement.values.map Value.string?)) =
        .ok (joinedText, [some "core", some "a"]) := by
    decide +kernel
  have planned : (FindPlan.of sampleSchema "user" joinedQuery).map (fun plan =>
      (plan.joins.map Join.qualifier, plan.schemas teamDialect,
        decide ("__squad" ∈ qualifiers (plan.fragments teamDialect)))) =
          .ok (["__team", "__squad"], ["crm", "crm"], true) := by
    decide
  obtain ⟨statement, found, isWritten⟩ := exists_of_map_eq_ok written
  obtain ⟨text, values⟩ := Prod.mk.inj isWritten
  obtain ⟨plan, isPlan, isNamed⟩ := exists_of_map_eq_ok planned
  obtain ⟨joins, isNamed⟩ := Prod.mk.inj isNamed
  obtain ⟨schemas, refersToAlias⟩ := Prod.mk.inj isNamed
  obtain ⟨same, samePlan, _, emitted, _, _, declares, _, declared⟩ :=
    qualifiers_find required parents filters found
  obtain rfl := Except.ok.inj (isPlan.symm.trans samePlan)
  rw [joins] at declares
  rw [declares, schemas] at declared
  exact ⟨user, statement, plan, required, found, parents, filters, text, values, emitted, declares,
    of_decide_eq_true refersToAlias, schemas, declared⟩

end Statement

end QuerySql
