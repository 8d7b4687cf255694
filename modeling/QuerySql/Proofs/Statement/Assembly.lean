import QuerySql.Proofs.Statement.Isolation

namespace QuerySql

open Sql Sql.Fragment

variable {dialect : Dialect} {schema : Schema} {instructions : List (String × Instruction)}

def Instruction.isJoined (instruction : Instruction) : Bool :=
  instruction.join = .parentHoldsKey

namespace Selection

theorem bound_fragments (selection : Selection) : bound (selection.fragments dialect) = [] := by
  have entries : bound (separated ", " (selection.entries.map (·.fragments dialect))) = [] := by
    rw [sees_bound.separated (by decide), List.flatMap_map]
    exact List.flatMap_eq_nil_iff.mpr fun entry _ => Population.bound_projected entry
  rw [fragments, sees_bound.trailing (by decide), sees_bound.link _ _ _ (by decide),
    sees_bound.fixed (by decide), entries, Population.bound_aliasedTable]
  rfl

end Selection

namespace Join

theorem bound_fragments (join : Join) : bound (join.fragments dialect) = [] := by
  rw [fragments, sees_bound.link _ _ _ (by decide), sees_bound.link _ _ _ (by decide),
    sees_bound.fixed (by decide), Population.bound_aliasedTable]
  rfl

theorem forall₂_of_all {joins : List Join} (joined : all schema instructions = .ok joins) :
    List.Forall₂ (fun entry join => of schema entry.1 entry.2 = .ok join)
      (instructions.filter fun entry => entry.2.isJoined) joins := by
  induction instructions generalizing joins with
  | nil =>
      cases joined
      exact .nil
  | cons entry rest ih =>
      obtain ⟨attr, instruction⟩ := entry
      rw [all] at joined
      split at joined
      · rename_i isJoined
        obtain ⟨join, compiled, joined⟩ := exists_of_bind_eq_ok joined
        obtain ⟨others, joinedRest, rfl⟩ := exists_of_map_eq_ok joined
        have keeps : instruction.isJoined = true := decide_eq_true isJoined
        rw [List.filter_cons_of_pos (by simp [keeps])]
        exact .cons compiled (ih joinedRest)
      · rename_i notJoined
        have skips : instruction.isJoined = false := decide_eq_false notJoined
        rw [List.filter_cons_of_neg (by simp [skips])]
        exact ih joined

end Join

namespace Population

theorem failure?_all :
    failure? (all schema instructions) =
      instructions.findSome? fun entry => failure? (of? schema entry.1 entry.2) := by
  induction instructions with
  | nil => rfl
  | cons entry rest ih =>
      obtain ⟨attr, instruction⟩ := entry
      rw [all, failure?_bind fun population => failure?_map _ _, ih, List.findSome?_cons]
      cases failure? (of? schema attr instruction) <;> rfl

theorem eq_none_iff_of_of? {attr : String} {instruction : Instruction}
    {population : Option Population} (compiled : of? schema attr instruction = .ok population) :
    population = none ↔ instruction.join = .parentHoldsKey := by
  rw [of?] at compiled
  split at compiled
  · rename_i isJoined
    cases compiled
    exact iff_of_true rfl isJoined
  · rename_i notJoined
    obtain ⟨built, -, rfl⟩ := exists_of_map_eq_ok compiled
    rw [notJoined]
    exact iff_of_false nofun nofun
  · rename_i notJoined
    rw [notJoined]
    split at compiled
    · obtain ⟨built, -, rfl⟩ := exists_of_map_eq_ok compiled
      exact iff_of_false nofun nofun
    · cases compiled

theorem attr_of_of? {attr : String} {instruction : Instruction} {population : Population}
    (compiled : of? schema attr instruction = .ok (some population)) : population.attr = attr := by
  cases built_of_of? compiled <;> rfl

theorem forall₂_of_all {populations : List Population}
    (compiled : all schema instructions = .ok populations) :
    List.Forall₂ (fun entry population => of? schema entry.1 entry.2 = .ok (some population))
      (instructions.filter fun entry => !entry.2.isJoined) populations := by
  induction instructions generalizing populations with
  | nil =>
      cases compiled
      exact .nil
  | cons entry rest ih =>
      obtain ⟨attr, instruction⟩ := entry
      obtain ⟨first, compiledFirst, compiled⟩ := exists_of_bind_eq_ok compiled
      obtain ⟨others, compiledRest, rfl⟩ := exists_of_map_eq_ok compiled
      have isNone := eq_none_iff_of_of? compiledFirst
      cases first with
      | none =>
          have skips : instruction.isJoined = true := decide_eq_true (isNone.mp rfl)
          rw [List.filter_cons_of_neg (by simp [skips])]
          exact ih compiledRest
      | some population =>
          have keeps : instruction.isJoined = false :=
            decide_eq_false fun isJoined => Option.some_ne_none _ (isNone.mpr isJoined)
          rw [List.filter_cons_of_pos (by simp [keeps])]
          exact .cons compiledFirst (ih compiledRest)

end Population

namespace FindPlan

theorem failure?_of {name : String} {query : Query} {table : Table}
    (required : schema.require name = .ok table) :
    failure? (of schema name query) =
      (failure? (Selection.of schema table query)).or
        ((failure? (Join.all schema query.instructions)).or
          ((failure? (Conditions.of schema table query)).or
            (query.instructions.findSome? fun entry =>
              failure? (Population.of? schema entry.1 entry.2)))) := by
  rw [← Population.failure?_all, of, required]
  show failure? ((Selection.of schema table query).bind _) = _
  exact failure?_bind fun selection => failure?_bind fun joins => failure?_bind fun conditions =>
    failure?_map _ _

theorem emitAll_joinFragments (joins : List Join) (bindings : Bindings) :
    emitAll dialect bindings (joinFragments dialect joins) =
      (String.join (joins.map fun join => text dialect (join.fragments dialect) ++ " "),
        bindings) := by
  induction joins with
  | nil => rfl
  | cons join rest ih =>
      have spaced : bound (join.fragments dialect ++ [.fixed " "]) = [] := by
        rw [sees_bound.trailing (by decide), join.bound_fragments]
      have own : text dialect (join.fragments dialect ++ [.fixed " "]) =
          text dialect (join.fragments dialect) ++ " " := by
        rw [text, emitAll_append, emitAll_of_bound_eq_nil rfl join.bound_fragments]
        rfl
      rw [joinFragments] at ih
      rw [joinFragments, List.flatMap_cons, emitAll_append, emitAll_of_bound_eq_nil rfl spaced, ih,
        own, List.map_cons, String.join_cons]

theorem emitAll_whereFragments (conditions : Conditions) :
    emitAll dialect {} (whereFragments dialect conditions.predicates) =
      (((conditions.write dialect).predicate?.map fun predicate =>
          "WHERE " ++ predicate ++ " ").getD "",
        (emitAll dialect {} (conditions.conjunction dialect)).2) := by
  rw [(conditions.write_eq dialect).1, whereFragments, Conditions.conjunction]
  cases conditions.predicates with
  | nil => rfl
  | cons predicate rest =>
      rw [List.isEmpty_cons, if_neg Bool.false_ne_true, if_neg Bool.false_ne_true, emitAll_append,
        emitAll_cons, emit]
      simp only [Option.map_some, Option.getD_some, emitAll_cons, emit, emitAll_nil,
        String.append_empty, String.append_assoc]

/-- A plan is written part by part, and only its conditions bind values. -/
theorem write_eq (plan : FindPlan) :
    (plan.write dialect).text =
        text dialect (plan.selection.fragments dialect) ++ " "
          ++ String.join (plan.joins.map fun join => text dialect (join.fragments dialect) ++ " ")
          ++ ((plan.conditions.write dialect).predicate?.map fun predicate =>
            "WHERE " ++ predicate ++ " ").getD ""
          ++ (plan.conditions.write dialect).tail ∧
      (plan.write dialect).values = (plan.conditions.write dialect).values := by
  have written : emitAll dialect {} (plan.fragments dialect) =
      (text dialect (plan.selection.fragments dialect) ++ (" "
          ++ (String.join (plan.joins.map fun join => text dialect (join.fragments dialect) ++ " ")
          ++ ((((plan.conditions.write dialect).predicate?.map fun predicate =>
            "WHERE " ++ predicate ++ " ").getD "")
          ++ (plan.conditions.write dialect).tail))),
        (emitAll dialect {} (plan.conditions.conjunction dialect)).2) := by
    rw [fragments, List.append_assoc, List.append_assoc, List.cons_append, emitAll_append,
      emitAll_of_bound_eq_nil rfl plan.selection.bound_fragments, emitAll_cons, emit,
      emitAll_append, emitAll_joinFragments, emitAll_append, emitAll_whereFragments,
      emitAll_of_bound_eq_nil rfl plan.conditions.tail.bound_fragments]
    rfl
  rw [write, written, (plan.conditions.write_eq dialect).2]
  simp only [String.append_assoc, and_self]

end FindPlan

/-- The parts of a statement are what they are compiled to on their own, and the statement is put
together from them. -/
structure Statement.PutTogether (schema : Schema) (dialect : Dialect) (name : String)
    (query : Query) (statement : FindStatement) (clauses : List String)
    (written : WrittenConditions) : Prop where
  found : find schema dialect name query = .ok statement
  joined : joins schema dialect query.instructions = .ok clauses
  conditioned : conditions schema dialect name query = .ok written
  text : ∃ front, select schema dialect name query = .ok front ∧
    statement.text = front ++ " " ++ String.join (clauses.map (· ++ " "))
      ++ (written.predicate?.map fun predicate => "WHERE " ++ predicate ++ " ").getD ""
      ++ written.tail
  values : statement.values = written.values

theorem FindPlan.putTogether_write {name : String} {query : Query} {plan : FindPlan}
    (planned : of schema name query = .ok plan) (dialect : Dialect) :
    Statement.PutTogether schema dialect name query (plan.write dialect)
      (plan.joins.map fun join => text dialect (join.fragments dialect))
      (plan.conditions.write dialect) := by
  obtain ⟨table, compiled⟩ := exists_compiled planned
  obtain ⟨isText, areValues⟩ := @write_eq dialect plan
  exact {
    found := congrArg (Except.map (write dialect)) planned
    joined := congrArg (Except.map _) compiled.joins
    conditioned := by
      rw [Statement.conditions, compiled.required]
      exact congrArg (Except.map (Conditions.write dialect)) compiled.conditions
    text := by
      refine ⟨Fragment.text dialect (plan.selection.fragments dialect), ?_, ?_⟩
      · rw [Statement.select, compiled.required]
        exact congrArg (Except.map fun selection =>
          Fragment.text dialect (Selection.fragments dialect selection)) compiled.selection
      · rw [List.map_map]
        exact isText
    values := areValues }

namespace Statement

variable {name : String} {query : Query}

theorem failure?_find :
    failure? (find schema dialect name query) =
      (failure? (select schema dialect name query)).or
        ((failure? (joins schema dialect query.instructions)).or
          ((failure? (conditions schema dialect name query)).or
            (query.instructions.findSome? fun entry =>
              failure? (population schema dialect entry.1 entry.2)))) := by
  cases required : schema.require name with
  | error error =>
      rw [find, failure?_map, FindPlan.of, select, required]
      rfl
  | ok table =>
      rw [find, failure?_map, FindPlan.failure?_of required, select, joins, conditions, required]
      simp only [population, failure?_map, Except.bind]

/-- A statement fails with the first of its parts that fails: the projection, the joins, the
conditions and then the population of each instruction.  Otherwise it is the projection, followed by
one join for each association that is joined and by the conditions with their tail, and it has one
template for each of the other associations. -/
theorem assembled_find :
    failure? (find schema dialect name query) =
        (failure? (select schema dialect name query)).or
          ((failure? (joins schema dialect query.instructions)).or
            ((failure? (conditions schema dialect name query)).or
              (query.instructions.findSome? fun entry =>
                failure? (population schema dialect entry.1 entry.2)))) ∧
      ((∃ statement, find schema dialect name query = .ok statement) ↔
        (∃ front, select schema dialect name query = .ok front) ∧
        (∃ clauses, joins schema dialect query.instructions = .ok clauses) ∧
        (∃ written, conditions schema dialect name query = .ok written) ∧
        ∀ entry ∈ query.instructions, ∃ template,
          population schema dialect entry.1 entry.2 = .ok template) ∧
      ∀ statement, find schema dialect name query = .ok statement →
        ∃ front clauses written, select schema dialect name query = .ok front ∧
          joins schema dialect query.instructions = .ok clauses ∧
          conditions schema dialect name query = .ok written ∧
          statement.text = front ++ " " ++ String.join (clauses.map (· ++ " "))
            ++ (written.predicate?.map fun predicate => "WHERE " ++ predicate ++ " ").getD ""
            ++ written.tail ∧
          statement.values = written.values ∧
          List.Forall₂ (fun entry clause => ∃ join, Join.of schema entry.1 entry.2 = .ok join ∧
              clause = text dialect (join.fragments dialect) ∧
              ∃ rest, clause = "LEFT OUTER JOIN " ++ rest)
            (query.instructions.filter fun entry => entry.2.isJoined) clauses ∧
          List.Forall₂ (fun entry template =>
              population schema dialect entry.1 entry.2 = .ok (some template) ∧
              template.attr = entry.1)
            (query.instructions.filter fun entry => !entry.2.isJoined) statement.populations := by
  refine ⟨failure?_find, ?_, ?_⟩
  · rw [← failure?_eq_none_iff, failure?_find]
    simp only [Option.or_eq_none_iff, List.findSome?_eq_none_iff, failure?_eq_none_iff]
  · intro statement found
    obtain ⟨plan, planned, rfl⟩ := exists_of_map_eq_ok found
    obtain ⟨table, compiled⟩ := FindPlan.exists_compiled planned
    have together := FindPlan.putTogether_write planned dialect
    obtain ⟨front, selected, isText⟩ := together.text
    refine ⟨front, _, _, selected, together.joined, together.conditioned, isText, together.values,
      ?_, ?_⟩
    · rw [List.forall₂_map_right_iff]
      exact (Join.forall₂_of_all compiled.joins).imp fun entry join built =>
        ⟨join, built, rfl, _, rfl⟩
    · refine List.forall₂_map_right_iff.mpr ((Population.forall₂_of_all compiled.populations).imp ?_)
      intro entry population built
      exact ⟨congrArg (Except.map _) built, Population.attr_of_of? built⟩

def mixedQuery : Query where
  filter := some [("id", .value (.int 7))]
  instructions := [
    ("pets", .of .childHoldsKey [petStage]),
    ("team", .of .parentHoldsKey [{
      parent := "user", parentKey := "team", child := "team", childKey := "id" }]),
    ("friends", friendInstruction)]

theorem assembled_find_mixed :
    ∃ statement front clause, find sampleSchema {} "user" mixedQuery = .ok statement ∧
      select sampleSchema {} "user" mixedQuery = .ok front ∧
      joins sampleSchema {} mixedQuery.instructions = .ok [clause] ∧
      statement.text = front ++ " " ++ (clause ++ " ") ++ "WHERE \"user\".\"id\" = $1 " ∧
      statement.values.length = 1 ∧
      statement.populations.map PopulationTemplate.attr = ["pets", "friends"] := by
  have counted : (find sampleSchema {} "user" mixedQuery).map (fun statement =>
      statement.populations.map PopulationTemplate.attr) = .ok ["pets", "friends"] := by
    decide
  have joined : (joins sampleSchema {} mixedQuery.instructions).map List.length = .ok 1 := by
    decide
  have conditioned : (conditions sampleSchema {} "user" mixedQuery).map (fun written =>
      (written.predicate?, written.tail, written.values.length)) =
        .ok (some "\"user\".\"id\" = $1", "", 1) := by
    decide
  obtain ⟨statement, found, attrs⟩ := exists_of_map_eq_ok counted
  obtain ⟨_, _, assembled⟩ :=
    @assembled_find {} sampleSchema "user" mixedQuery
  obtain ⟨front, clauses, written, selected, joinsOf, conditionsOf, isText, areValues, _⟩ :=
    assembled statement found
  rw [joinsOf] at joined
  obtain ⟨clause, rfl⟩ := List.length_eq_one_iff.mp (Except.ok.inj joined)
  rw [conditionsOf] at conditioned
  obtain ⟨predicate, rest⟩ := Prod.mk.inj (Except.ok.inj conditioned)
  obtain ⟨tail, count⟩ := Prod.mk.inj rest
  refine ⟨statement, front, clause, found, selected, joinsOf, ?_, ?_, attrs⟩
  · simpa [predicate, tail, String.append_assoc] using isText
  · rw [areValues, count]

end Statement

end QuerySql
