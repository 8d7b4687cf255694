import QuerySql.Proofs.Statement.Built

/-!
The children of a parent are its own.  Behind the `WHERE` of a population stands the equality with
the parent's key, and every condition of the criteria is bound to it by an `AND`: the criteria never
bring an alternative, or a parenthesis, that reaches around it.
-/

namespace QuerySql

open Sql Sql.Fragment Sql.Formula

namespace Sql.Token

def beginsClause (token : Token) : Bool :=
  ["GROUP", "ORDER", "LIMIT", "OFFSET"].any fun word => token = .other word

/-- The tokens behind the first `WHERE`, up to the next clause. -/
def whereClause (tokens : List Token) : List Token :=
  ((tokens.dropWhile (· ≠ .other "WHERE")).drop 1).takeWhile (!·.beginsClause)

/-- The parent's key as the value number 0, since placeholders are numbered from 1 on. -/
def keyAsValue : Token → Token
  | .parentKey => .placeholder 0
  | token => token

theorem whereClause_append {source conditions later : List Token} {next : Token}
    (noWhere : ∀ token ∈ source, token ≠ .other "WHERE")
    (within : ∀ token ∈ conditions, token.beginsClause = false) (begins : next.beginsClause) :
    whereClause (source ++ .other "WHERE" :: (conditions ++ next :: later)) = conditions := by
  have skipped : (source ++ .other "WHERE" :: (conditions ++ next :: later)).dropWhile
      (· ≠ .other "WHERE") = .other "WHERE" :: (conditions ++ next :: later) := by
    rw [List.dropWhile_append_of_pos fun token member => decide_eq_true (noWhere token member)]
    exact List.dropWhile_cons_of_neg (by simp)
  have kept : ∀ token ∈ conditions, (!token.beginsClause) = true := fun token member => by
    rw [within token member]
    rfl
  rw [whereClause, skipped, List.drop_succ_cons, List.drop_zero,
    List.takeWhile_append_of_pos kept, List.takeWhile_cons_of_neg (by simp [begins]),
    List.append_nil]

end Sql.Token

namespace PopulationTemplate

def formula? (template : PopulationTemplate) : Option Formula :=
  (Token.ofText? template.text).bind fun tokens =>
    parseOperand [] {} ((Token.whereClause tokens).map Token.keyAsValue)

end PopulationTemplate

namespace Population

variable {schema : Schema} {dialect : Dialect} {attr : String} {instruction : Instruction}
  {population : Population}

def keyAtom (population : Population) : Atom :=
  .compare ⟨population.key, false⟩ .equal 0

def keyTokens (population : Population) : List Token :=
  [.name population.key.qualifier, .dot, .name population.key.column, .relation .equal, .parentKey]

theorem token_conjoined (dialect : Dialect) (population : Population) (next : Nat) :
    ∀ token ∈ tokens next (population.conjoined dialect),
      token.beginsClause = false ∧ token ≠ .parentKey :=
  (population.speak_conjoined dialect).tokens (fun _ => ⟨rfl, nofun⟩) (fun _ => ⟨rfl, nofun⟩)
    (by decide +kernel) next

theorem Built.token_source (built : Built schema attr instruction population) (next : Nat) :
    ∀ token ∈ tokens next (population.sourceFragments dialect), token ≠ .other "WHERE" :=
  (built.speak_source dialect).tokens (fun _ => nofun) (fun _ => nofun) (by decide +kernel) next

theorem bound_sourceFragments (dialect : Dialect) (population : Population) :
    bound (population.sourceFragments dialect) = [] := by
  have head : bound (population.headFragments dialect) = [] := population.bound_headFragments
  rw [headFragments_eq, bound_append] at head
  exact (List.append_eq_nil_iff.mp head).1

theorem whereClause_fragments (built : Built schema attr instruction population)
    {order : ColumnRef × SortDirection} {others : List (ColumnRef × SortDirection)}
    (ungrouped : population.conditions.tail.groups = [])
    (ordered : population.conditions.tail.orders = order :: others) :
    Token.whereClause (tokens 1 (population.fragments dialect)) =
      population.keyTokens ++ tokens 1 (population.conjoined dialect) := by
  obtain ⟨rest, tail⟩ : ∃ rest,
      population.conditions.tail.fragments = .fixed " ORDER BY " :: rest := by
    rw [Tail.fragments, ungrouped, ordered]
    exact ⟨_, rfl⟩
  have split : population.fragments dialect =
      population.sourceFragments dialect ++ .fixed " WHERE " ::
        (population.key.fragments ++ .fixed " = " :: .parentKey ::
          (population.conjoined dialect ++ .fixed " ORDER BY " :: (rest ++ [.fixed ")"]))) := by
    rw [fragments, headFragments_eq, restFragments, tail]
    simp [conjoined]
  have whereWord : Token.ofText " WHERE " = [.other "WHERE"] := by decide
  have equalWord : Token.ofText " = " = [.relation .equal] := by decide
  have orderWord : Token.ofText " ORDER BY " = [.other "ORDER", .other "BY"] := by decide
  have whole : tokens 1 (population.fragments dialect) =
      tokens 1 (population.sourceFragments dialect) ++ .other "WHERE" ::
        ((population.keyTokens ++ tokens 1 (population.conjoined dialect)) ++ .other "ORDER" ::
          .other "BY" :: tokens (1 + (bound (population.conjoined dialect)).length)
            (rest ++ [.fixed ")"])) := by
    rw [split, tokens_append, bound_sourceFragments]
    simp [tokens, tokens_append, whereWord, equalWord, orderWord, ColumnRef.fragments, keyTokens]
  rw [whole]
  refine Token.whereClause_append (built.token_source 1) ?_ (by decide)
  exact List.forall_mem_append.mpr ⟨by simp [keyTokens, Token.beginsClause], fun token member =>
    (population.token_conjoined dialect 1 token member).1⟩

theorem reads_keyTokens (population : Population) :
    Reads (population.keyTokens.map Token.keyAsValue) fun truth => truth population.keyAtom := by
  refine Reads.of_atom fun outer level rest => ?_
  simp [keyTokens, Token.keyAsValue, parseOperand, parseTest, keyAtom]

theorem map_keyAsValue_conjoined (dialect : Dialect) (population : Population) :
    (tokens 1 (population.conjoined dialect)).map Token.keyAsValue =
      tokens 1 (population.conjoined dialect) := by
  refine (List.map_congr_left fun token member => ?_).trans (List.map_id _)
  have notKey := (population.token_conjoined dialect 1 token member).2
  cases token <;> first | rfl | exact absurd rfl notKey

theorem reads_whereClause
    (wellFormed : ∀ predicate ∈ population.conditions.predicates, predicate.WellFormed) :
    Reads ((population.keyTokens ++ tokens 1 (population.conjoined dialect)).map Token.keyAsValue)
      fun truth => truth population.keyAtom &&
        (Meaning.all (population.conditions.predicates.map (Predicate.meaning dialect))).holds
          truth 1 := by
  rw [List.map_append, map_keyAsValue_conjoined, conjoined]
  cases predicates : population.conditions.predicates with
  | nil =>
      have key := population.reads_keyTokens
      simpa [tokens, Meaning.free] using key
  | cons predicate rest =>
      rw [predicates] at wellFormed
      have criteria := (Meaning.writtenAs_all (List.cons_ne_nil predicate rest)
        fun part member => (wellFormed part member).writtenAs dialect).reads 1
      rw [conjoined_eq, tokens, Token.ofText_and, List.singleton_append]
      exact population.reads_keyTokens.and criteria

theorem values_template (parameterized : dialect.parameterized)
    (wellFormed : ∀ predicate ∈ population.conditions.predicates, predicate.WellFormed) :
    (population.template dialect).values = (Meaning.all
      (population.conditions.predicates.map (Predicate.meaning dialect))).operands := by
  rw [population.template_eq.2, (population.conditions.write_eq dialect).2,
    emitAll_bound parameterized, List.nil_append, Conditions.conjunction]
  cases predicates : population.conditions.predicates with
  | nil => rfl
  | cons predicate rest =>
      rw [predicates] at wellFormed
      exact (Meaning.writtenAs_all (List.cons_ne_nil predicate rest)
        fun part member => (wellFormed part member).writtenAs dialect).bound_eq

theorem orders_sortedCriteria (found child : Table) (stage : Stage) :
    ∃ order others, (Tail.of found (sortedCriteria child stage)).orders = order :: others := by
  have sorted : (sortedCriteria child stage).sort ≠ [] := by
    rcases sortedCriteria_cases child stage with ⟨isSorted, same⟩ | ⟨_, same⟩
    · rwa [same]
    · rw [same]
      exact List.cons_ne_nil _ _
  obtain ⟨entry, rest, isSort⟩ := List.exists_cons_of_ne_nil sorted
  rw [Tail.of, isSort]
  exact ⟨_, _, rfl⟩

theorem groupBy_sortedCriteria (child : Table) (stage : Stage) :
    (sortedCriteria child stage).groupBy = (stage.criteria.getD {}).groupBy := by
  rcases sortedCriteria_cases child stage with ⟨_, same⟩ | ⟨_, same⟩ <;> rw [same]

theorem formula?_template (parameterized : dialect.parameterized) (isQuote : dialect.quote = '"')
    (built : Built schema attr instruction population)
    (tidy : Tidy '"' (population.fragments dialect))
    (wellFormed : ∀ predicate ∈ population.conditions.predicates, predicate.WellFormed)
    {order : ColumnRef × SortDirection} {others : List (ColumnRef × SortDirection)}
    (ungrouped : population.conditions.tail.groups = [])
    (ordered : population.conditions.tail.orders = order :: others) :
    ∃ formula, (population.template dialect).formula? = some formula ∧
      ∀ truth, formula.holds truth = (truth population.keyAtom &&
        (Meaning.all (population.conditions.predicates.map (Predicate.meaning dialect))).holds
          truth 1) := by
  have clause : Reads ((population.keyTokens ++
      tokens 1 (population.conjoined dialect)).map Token.keyAsValue) _ :=
    reads_whereClause wellFormed
  obtain ⟨formula, parses, holds⟩ := clause.alternatives.exists_formula
  refine ⟨formula, ?_, holds⟩
  have lexes := Token.ofText?_emitAll parameterized isQuote tidy
  rw [PopulationTemplate.formula?, template, lexes, Option.bind_some,
    whereClause_fragments built ungrouped ordered, parses]

end Population

namespace Statement

variable {schema : Schema} {dialect : Dialect} {attr : String} {instruction : Instruction}

/-- The `WHERE` clause of a population is the conjunction of the equality with the parent's key and
the meaning of the child's criteria, so that no row of another parent satisfies it. -/
theorem formula_population {template : PopulationTemplate} (parameterized : dialect.parameterized)
    (isQuote : dialect.quote = '"')
    (ungrouped : ∀ stage ∈ instruction.childStage?, ∀ criteria ∈ stage.criteria,
      criteria.groupBy.getD [] = [])
    (compiled : population schema dialect attr instruction = .ok (some template)) :
    ∃ first stage owner child found formula, ∃ meaning : Meaning, ∃ key : Atom,
      instruction.stages.head? = some first ∧ schema.require first.child = .ok owner ∧
      key = .compare ⟨owner.columnRef first.childKey, false⟩ .equal 0 ∧
      instruction.childStage? = some stage ∧ schema.require stage.child = .ok child ∧
      schema.require child.name = .ok found ∧
      meaning =
        (Conditions.scope schema found (Population.sortedCriteria child stage)).meaning dialect
          (Population.sortedCriteria child stage).criteria ∧
      template.values = meaning.operands ∧ template.formula? = some formula ∧
      (∀ truth, formula.holds truth = (truth key && meaning.holds truth 1)) ∧
      ∀ truth, truth key = false → formula.holds truth = false := by
  obtain ⟨built?, populated, isTemplate⟩ := exists_of_map_eq_ok compiled
  obtain ⟨built, rfl, rfl⟩ := Option.map_eq_some_iff.mp isTemplate
  have shape := Population.built_of_of? populated
  obtain ⟨first, stage, owner, child, found, isFirst, requiredOwner, isKey, isStage, required,
    requiredAgain, conditionsOf⟩ := shape.exists_conditions
  obtain ⟨predicates, expanded, isConditions⟩ := exists_of_map_eq_ok conditionsOf
  have express := Scope.express_expandAll dialect _ _ _ expanded
  have wellFormed : ∀ predicate ∈ built.conditions.predicates, predicate.WellFormed := by
    rw [← isConditions]
    exact express.wellFormed
  have noGroups : (stage.criteria.getD {}).groupBy.getD [] = [] := by
    cases isCriteria : stage.criteria with
    | none => rfl
    | some criteria => exact ungrouped stage isStage criteria isCriteria
  have tailUngrouped : built.conditions.tail.groups = [] := by
    rw [← isConditions, Tail.of, Population.groupBy_sortedCriteria, noGroups]
    rfl
  obtain ⟨order, others, ordered⟩ := Population.orders_sortedCriteria found child stage
  have tailOrdered : built.conditions.tail.orders = order :: others := by
    rw [← isConditions]
    exact ordered
  have tidy : Tidy '"' (built.fragments dialect) := by
    refine Population.tidy_of? populated fun other isOther text member => ?_
    obtain rfl := Option.some.inj (isStage.symm.trans isOther)
    rw [Stage.expressions] at member
    split at member
    · simp [Query.expressions, noGroups] at member
    · cases member
  obtain ⟨formula, isFormula, holds⟩ :=
    Population.formula?_template parameterized isQuote shape tidy wellFormed tailUngrouped
      tailOrdered
  have meaning_eq : Meaning.all (built.conditions.predicates.map (Predicate.meaning dialect)) =
      (Conditions.scope schema found (Population.sortedCriteria child stage)).meaning dialect
        (Population.sortedCriteria child stage).criteria := by
    rw [express.meaning_eq, ← isConditions]
  rw [meaning_eq, Population.keyAtom, isKey] at holds
  refine ⟨first, stage, owner, child, found, formula, _, _, isFirst, requiredOwner, rfl, isStage,
    required, requiredAgain, rfl, ?_, isFormula, holds, fun truth notKey => ?_⟩
  · rw [← meaning_eq]
    exact Population.values_template parameterized wellFormed
  · rw [holds, notKey, Bool.false_and]

def friendInstruction : Instruction :=
  .of .junction [
    { parent := "user", parentKey := "id", child := "pet", childKey := "owner" },
    { parent := "pet", parentKey := "friend", child := "user", childKey := "id"
      criteria := some { filter := some [
        ("or", .list [
          .object [("name", .value (.string "A"))],
          .object [("id", .value (.int 3))]]),
        ("like", .object [("name", .value (.string "a%"))]),
        ("team", .object [("label", .value (.string "Core"))])] } }]

theorem formula_population_friends :
    ∃ template formula, ∃ meaning : Meaning,
      population sampleSchema {} "friends" friendInstruction = .ok (some template) ∧
      (∀ stage ∈ friendInstruction.childStage?, ∀ criteria ∈ stage.criteria,
        criteria.groupBy.getD [] = []) ∧
      template.values = meaning.operands ∧ template.values.length = 4 ∧
      template.formula? = some formula ∧
      (∀ truth, formula.holds truth =
        (truth (.compare ⟨⟨"pet", "owner"⟩, false⟩ .equal 0) && meaning.holds truth 1)) ∧
      ∀ truth, truth (.compare ⟨⟨"pet", "owner"⟩, false⟩ .equal 0) = false →
        formula.holds truth = false := by
  have counted : (population sampleSchema {} "friends" friendInstruction).map
      (fun template => template.map fun template => template.values.length) = .ok (some 4) := by
    decide
  obtain ⟨built?, built, isCount⟩ := exists_of_map_eq_ok counted
  obtain ⟨template, rfl, count⟩ := Option.map_eq_some_iff.mp isCount
  have ungrouped : ∀ stage ∈ friendInstruction.childStage?, ∀ criteria ∈ stage.criteria,
      criteria.groupBy.getD [] = [] := by
    rintro stage ⟨⟩ criteria ⟨⟩
    rfl
  obtain ⟨first, _, owner, _, _, formula, meaning, key, isFirst, requiredOwner, isKey, _, _, _, _,
    values, isFormula, holds, isolated⟩ := formula_population rfl rfl ungrouped built
  obtain rfl := Option.some.inj isFirst
  have isOwner : (sampleSchema.require "pet").map (fun owner => owner.columnRef "owner") =
      .ok ⟨"pet", "owner"⟩ := by decide
  have sameKey : owner.columnRef "owner" = ⟨"pet", "owner"⟩ := by
    have mapped := congrArg (Except.map fun owner : Table => owner.columnRef "owner") requiredOwner
    exact Except.ok.inj (mapped.symm.trans isOwner)
  rw [sameKey] at isKey
  rw [isKey] at holds isolated
  exact ⟨template, formula, meaning, built, ungrouped, values, count, isFormula, holds, isolated⟩

end Statement

end QuerySql
