import QuerySql.Proofs.Statement.Isolation
import QuerySql.Proofs.Statement.Marker

namespace QuerySql

open Sql Sql.Fragment

theorem replaceFirst_append {first : Char} {front : List Char} (notMem : first ∉ front)
    (target replacement back : List Char) :
    replaceFirst (first :: target) replacement (front ++ (first :: target ++ back)) =
      front ++ (replacement ++ back) := by
  induction front with
  | nil =>
      have found : (first :: target).isPrefixOf (first :: (target ++ back)) :=
        List.isPrefixOf_iff_prefix.mpr (List.prefix_append (first :: target) back)
      rw [List.nil_append, List.cons_append, replaceFirst, if_pos found, ← List.cons_append,
        List.drop_left]
      rfl
  | cons char rest ih =>
      obtain ⟨differs, notInRest⟩ := not_or.mp (List.mem_cons.not.mp notMem)
      rw [List.cons_append, replaceFirst, List.isPrefixOf_cons_cons, beq_false_of_ne differs,
        Bool.false_and, if_neg Bool.false_ne_true, ih notInRest]
      rfl

theorem PopulationTemplate.substitute_eq {template : PopulationTemplate} {front back : String}
    (split : template.text = front ++ parentKeyMarker ++ back) (caretless : Caretless front)
    (dialect : Dialect) (key : Value) :
    template.substitute dialect key = front ++ dialectLiteral dialect key ++ back := by
  have signs : parentKeyMarker.toList = '^' :: ['?', '^'] := by decide
  rw [substitute, split, String.toList_append, String.toList_append, List.append_assoc, signs,
    replaceFirst_append caretless, ← List.append_assoc, String.ofList_append, String.ofList_append]
  simp only [String.ofList_toList]

namespace Population

variable {schema : Schema} {dialect : Dialect} {attr : String} {instruction : Instruction}
  {population : Population}

theorem text_headFragments (dialect : Dialect) (population : Population) :
    text dialect (population.headFragments dialect) =
      text dialect (population.sourceFragments dialect) ++ " WHERE "
        ++ text dialect population.key.fragments ++ " = " := by
  have source : bound (population.sourceFragments dialect) = [] :=
    population.bound_sourceFragments dialect
  rw [headFragments_eq, text, emitAll_append, emitAll_of_bound_eq_nil rfl source, emitAll_cons, emit,
    emitAll_append, emitAll_of_bound_eq_nil rfl (show bound population.key.fragments = [] from rfl)]
  simp [emitAll_cons, emit, String.append_assoc]

end Population

namespace Statement

variable {schema : Schema} {dialect : Dialect}

/-- The key that is filled in stands behind the equality with the key column, and the conditions of
the child follow as they are.  Values may hold markers, both those of the conditions and the key. -/
theorem substitute_population {attr : String} {instruction : Instruction}
    {template : PopulationTemplate} (schemaUnmarked : schema.NamesUnmarked)
    (dialectUnmarked : dialect.Unmarked) (stages : ∀ stage ∈ instruction.stages, stage.Unmarked)
    (compiled : population schema dialect attr instruction = .ok (some template)) :
    ∃ first stage owner child found, ∃ conditions : Conditions, ∃ source key rest : String,
      instruction.stages.head? = some first ∧ schema.require first.child = .ok owner ∧
      key = Fragment.text dialect (owner.columnRef first.childKey).fragments ∧
      instruction.childStage? = some stage ∧ schema.require stage.child = .ok child ∧
      schema.require child.name = .ok found ∧
      Conditions.of schema found (Population.sortedCriteria child stage) = .ok conditions ∧
      rest = ((conditions.write dialect).predicate?.map (" AND " ++ ·)).getD ""
        ++ (conditions.write dialect).tail ++ ")" ∧
      template.text = source ++ " WHERE " ++ key ++ " = " ++ parentKeyMarker ++ rest ∧
      ∀ value, template.substitute dialect value =
        source ++ " WHERE " ++ key ++ " = " ++ dialectLiteral dialect value ++ rest := by
  obtain ⟨built?, populated, isTemplate⟩ := exists_of_map_eq_ok compiled
  obtain ⟨built, rfl, rfl⟩ := Option.map_eq_some_iff.mp isTemplate
  have shape := Population.built_of_of? populated
  obtain ⟨first, stage, owner, child, found, isFirst, requiredOwner, isKey, isStage, required,
    requiredAgain, conditionsOf⟩ := shape.exists_conditions
  have head : Every Bare (built.headFragments dialect) :=
    shape.bare_headFragments schemaUnmarked dialectUnmarked stages
  have caretless : Caretless (Fragment.text dialect (built.headFragments dialect)) :=
    caretless_emitAll dialectUnmarked.quote head built.bound_headFragments {}
  rw [built.text_headFragments] at caretless
  have text : (built.template dialect).text =
      Fragment.text dialect (built.sourceFragments dialect) ++ " WHERE "
        ++ Fragment.text dialect built.key.fragments ++ " = " ++ parentKeyMarker
        ++ (((built.conditions.write dialect).predicate?.map (" AND " ++ ·)).getD ""
          ++ (built.conditions.write dialect).tail ++ ")") := by
    rw [(@Population.template_eq dialect built).1, built.text_headFragments]
    simp only [String.append_assoc]
  refine ⟨first, stage, owner, child, found, built.conditions, _, _, _, isFirst, requiredOwner,
    congrArg (fun ref => Fragment.text dialect ref.fragments) isKey, isStage, required,
    requiredAgain, conditionsOf, rfl, text, fun value => ?_⟩
  exact PopulationTemplate.substitute_eq text caretless dialect value

theorem substitute_population_marked :
    ∃ template source rest,
      petSchema.NamesUnmarked ∧ Dialect.mysql.Unmarked ∧
      (∀ stage ∈ (criteriaInstruction markedCriteria).stages, stage.Unmarked) ∧
      population petSchema .mysql "pets" (criteriaInstruction markedCriteria) =
        .ok (some template) ∧
      template.text = source ++ " WHERE " ++ "`pet`.`owner`" ++ " = " ++ parentKeyMarker ++ rest ∧
      markers template.text = 3 ∧
      template.substitute .mysql (.string "^?^") =
        source ++ " WHERE " ++ "`pet`.`owner`" ++ " = " ++ "\"^?^\"" ++ rest := by
  have schemaUnmarked : petSchema.NamesUnmarked := by decide
  have dialectUnmarked : Dialect.mysql.Unmarked := by decide
  have stages : ∀ stage ∈ (criteriaInstruction markedCriteria).stages, stage.Unmarked := by decide
  have counted : (population petSchema .mysql "pets" (criteriaInstruction markedCriteria)).map
      (fun template => template.map fun template => markers template.text) = .ok (some 3) := by
    decide +kernel
  obtain ⟨built?, built, isCount⟩ := exists_of_map_eq_ok counted
  obtain ⟨template, rfl, count⟩ := Option.map_eq_some_iff.mp isCount
  obtain ⟨first, _, owner, _, _, _, source, key, rest, isFirst, requiredOwner, isKey, _, _, _, _, _,
    text, filled⟩ := substitute_population schemaUnmarked dialectUnmarked stages built
  cases isFirst
  let pet := (petSchema.table? "pet").getD { name := "" }
  have isPet : petSchema.require "pet" = .ok pet := by decide
  obtain rfl := Except.ok.inj (isPet.symm.trans requiredOwner)
  have isColumn : Fragment.text .mysql (pet.columnRef "owner").fragments = "`pet`.`owner`" := by
    decide
  have isLiteral : dialectLiteral .mysql (.string "^?^") = "\"^?^\"" := by decide
  have isFilled := filled (.string "^?^")
  rw [isKey.trans isColumn] at text isFilled
  rw [isLiteral] at isFilled
  exact ⟨template, source, rest, schemaUnmarked, dialectUnmarked, stages, built, text, count,
    isFilled⟩

end Statement

end QuerySql
