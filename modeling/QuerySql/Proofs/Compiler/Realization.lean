import QuerySql.Proofs.Compiler.Basic
import QuerySql.Proofs.Predicate.Texts
import QuerySql.Proofs.Statement.Conditions

/-!
The compiler does what the expansion of criteria plans.  It returns the texts of the predicates that
they expand into, or fails as expansion does, and of its state it changes nothing but the bindings.
-/

namespace QuerySql

open Sql Sql.Fragment

namespace Compiler

def binding (compiler : Compiler) (bindings : Bindings) : Compiler :=
  { compiler with bindings }

@[simp] theorem binding_bindings (compiler : Compiler) :
    compiler.binding compiler.bindings = compiler := rfl

end Compiler

namespace Compile

variable {α β γ δ : Type} {steps : Compile α} {compiler : Compiler} {plan : Except Error β}
  {written : β → α × Bindings}

/-- The steps return what the plan is written as, or fail as planning does, and change nothing of
the compiler but its bindings. -/
def Realizes (steps : Compile α) (compiler : Compiler) (plan : Except Error β)
    (written : β → α × Bindings) : Prop :=
  match plan with
  | .ok planned =>
      steps.runFrom compiler = (.ok (written planned).1, compiler.binding (written planned).2)
  | .error error => ∃ bindings, steps.runFrom compiler = (.error error, compiler.binding bindings)

theorem Realizes.run_eq {planned : β} (realizes : Realizes steps compiler (.ok planned) written) :
    steps.runFrom compiler = (.ok (written planned).1, compiler.binding (written planned).2) :=
  realizes

theorem Realizes.result_eq (realizes : Realizes steps compiler plan written) :
    (steps.runFrom compiler).1 = plan.map fun planned => (written planned).1 := by
  cases plan with
  | ok planned => rw [realizes.run_eq, Except.map]
  | error error =>
      obtain ⟨bindings, fails⟩ := realizes
      rw [fails, Except.map]

theorem runFrom_bind (next : α → Compile γ) :
    (steps >>= next).runFrom compiler =
      match steps.runFrom compiler with
      | (.ok result, after) => (next result).runFrom after
      | (.error error, after) => (.error error, after) := by
  change (ExceptT.bindCont next (steps.runFrom compiler).1).run (steps.runFrom compiler).2 = _
  rcases steps.runFrom compiler with ⟨result | error, after⟩ <;> rfl

@[simp] theorem runFrom_pure (result : α) (compiler : Compiler) :
    (pure result : Compile α).runFrom compiler = (.ok result, compiler) := rfl

@[simp] theorem runFrom_get (compiler : Compiler) :
    (get : Compile Compiler).runFrom compiler = (.ok compiler, compiler) := rfl

@[simp] theorem runFrom_set (compiler after : Compiler) :
    (set after : Compile PUnit).runFrom compiler = (.ok ⟨⟩, after) := rfl

theorem runFrom_ofExcept (result : Except Error α) (compiler : Compiler) :
    (MonadExcept.ofExcept result : Compile α).runFrom compiler = (result, compiler) := by
  cases result <;> rfl

theorem realizes_pure {planned : β} {result : α}
    (same : written planned = (result, compiler.bindings)) :
    Realizes (pure result) compiler (.ok planned) written := by
  rw [Realizes, same]
  rfl

theorem realizes_throw (error : Error) :
    Realizes (throw error) compiler (.error error) written :=
  ⟨compiler.bindings, rfl⟩

theorem realizes_ofExcept (plan : Except Error β) :
    Realizes (MonadExcept.ofExcept plan) compiler plan fun planned =>
      (planned, compiler.bindings) := by
  cases plan with
  | ok planned => exact runFrom_ofExcept (.ok planned) compiler
  | error error => exact ⟨compiler.bindings, runFrom_ofExcept (.error error) compiler⟩

theorem Realizes.bind {next : α → Compile γ} {plan' : β → Except Error δ}
    {written' : δ → γ × Bindings} (first : Realizes steps compiler plan written)
    (following : ∀ planned, plan = .ok planned →
      Realizes (next (written planned).1) (compiler.binding (written planned).2) (plan' planned)
        written') :
    Realizes (steps >>= next) compiler (plan.bind plan') written' := by
  cases plan with
  | error error =>
      obtain ⟨bindings, fails⟩ := first
      refine ⟨bindings, ?_⟩
      rw [runFrom_bind, fails]
  | ok planned =>
      have behind := following planned rfl
      have run := @runFrom_bind _ _ steps compiler next
      rw [first.run_eq] at run
      rw [Except.bind]
      cases isPlan : plan' planned with
      | ok planned' =>
          rw [isPlan] at behind
          exact run.trans behind
      | error error =>
          rw [isPlan] at behind
          obtain ⟨bindings, fails⟩ := behind
          exact ⟨bindings, run.trans fails⟩

theorem Realizes.of_get {next : Compiler → Compile α}
    (realizes : Realizes (next compiler) compiler plan written) :
    Realizes (do next (← get)) compiler plan written :=
  realizes

theorem Realizes.bind_map {next : α → Compile γ} {change : β → δ} {written' : δ → γ × Bindings}
    (first : Realizes steps compiler plan written)
    (following : ∀ planned, plan = .ok planned →
      Realizes (next (written planned).1) (compiler.binding (written planned).2)
        (.ok (change planned)) written') :
    Realizes (steps >>= next) compiler (plan.map change) written' := by
  have changed : plan.map change = plan.bind fun planned => .ok (change planned) := by
    cases plan <;> rfl
  rw [changed]
  exact first.bind following

theorem Realizes.map {write : α → γ} {change : β → δ} {written' : δ → γ × Bindings}
    (first : Realizes steps compiler plan written)
    (same : ∀ planned, written' (change planned) =
      (write (written planned).1, (written planned).2)) :
    Realizes (do return write (← steps)) compiler (plan.map change) written' :=
  first.bind_map fun planned _ => realizes_pure (same planned)

theorem Realizes.inside {qualifier : String} {related : Table}
    (inner : Realizes steps { compiler with inner? := some (qualifier, related) } plan written) :
    Realizes (Compiler.inside qualifier related steps) compiler plan written := by
  have run : (Compiler.inside qualifier related steps).runFrom compiler =
      ((steps.runFrom { compiler with inner? := some (qualifier, related) }).1,
        { (steps.runFrom { compiler with inner? := some (qualifier, related) }).2 with
          inner? := compiler.inner? }) :=
    runFrom_ofExcept _ _
  cases plan with
  | ok planned =>
      rw [inner.run_eq] at run
      exact run
  | error error =>
      obtain ⟨bindings, fails⟩ := inner
      rw [fails] at run
      exact ⟨bindings, run⟩

end Compile

namespace Compiler

open Compile

variable {compiler : Compiler}

def written (compiler : Compiler) (predicate : Predicate) : String × Bindings :=
  emitAll compiler.dialect compiler.bindings (predicate.fragments compiler.dialect)

def writtenEach (compiler : Compiler) (predicates : List Predicate) : List String × Bindings :=
  Conditions.emitEach compiler.dialect compiler.bindings predicates

def writtenOption (compiler : Compiler) : Option Predicate → Option String × Bindings
  | none => (none, compiler.bindings)
  | some predicate => (some (compiler.written predicate).1, (compiler.written predicate).2)

theorem runFrom_bindValue (value : Value) :
    (bindValue value).runFrom compiler =
      (.ok (emit compiler.dialect compiler.bindings (.operand value)).1,
        compiler.binding (emit compiler.dialect compiler.bindings (.operand value)).2) := by
  rw [bindValue, runFrom_bind, runFrom_get, emit]
  dsimp only
  split
  · rw [runFrom_bind, runFrom_set]
    rfl
  · rfl

theorem runFrom_bindPattern (kind : TextMatch) (text : String) :
    (bindPattern kind text).runFrom compiler =
      (.ok (emit compiler.dialect compiler.bindings (.pattern kind text)).1,
        compiler.binding (emit compiler.dialect compiler.bindings (.pattern kind text)).2) := by
  rw [bindPattern, runFrom_bind, runFrom_get, emit]
  dsimp only
  split
  · rename_i parameterized
    rw [runFrom_bindValue, emit, if_pos parameterized]
  · rfl

theorem runFrom_column (key : String) (comparesText : Bool) :
    (column key comparesText).runFrom compiler =
      (.ok
        (text compiler.dialect ((compiler.scope.column key).fragments
            ((compiler.scope.column key).isFolded compiler.dialect comparesText)),
          (compiler.scope.column key).isFolded compiler.dialect comparesText), compiler) := rfl

theorem emitAll_column (column : Column) (folded : Bool) {dialect : Dialect} (bindings : Bindings)
    (rest : List Fragment) :
    emitAll dialect bindings (column.fragments folded ++ rest) =
      (text dialect (column.fragments folded) ++ (emitAll dialect bindings rest).1,
        (emitAll dialect bindings rest).2) := by
  rw [emitAll_append, emitAll_of_bound_eq_nil rfl (column.bound_fragments folded)]

theorem realizes_null (key : String) (negated : Bool) :
    Realizes (null key negated) compiler
      (.ok (.condition (.null (compiler.scope.column key) negated))) compiler.written := by
  refine realizes_pure ?_
  rw [written, Predicate.fragments, Condition.fragments, emitAll_column, emitAll_cons, emitAll_nil,
    String.append_empty]
  rfl

theorem realizes_compare (key : String) (relation : Relation) (value : Value) :
    Realizes (compare key relation value) compiler
      (.ok (.condition (.compare (compiler.scope.column key) relation value)))
      compiler.written := by
  rw [Realizes, compare, runFrom_bind, runFrom_column]
  dsimp only
  rw [runFrom_bind, bindFolded, runFrom_bindValue]
  dsimp only
  rw [runFrom_pure, written, Predicate.fragments, Condition.fragments, emitAll_column,
    emitAll_fixed, emitAll_singleton, operandFragment]
  simp only [String.append_assoc]

theorem realizes_equality (key : String) (value : Value) :
    Realizes (equality key value) compiler (.ok (compiler.scope.equality key value))
      compiler.written := by
  rw [equality, Scope.equality]
  split
  · exact realizes_null key false
  · exact realizes_compare key .equal value

theorem runFrom_bindEach (folded : Bool) (values : List Value) :
    (bindEach folded values).runFrom compiler =
      (.ok (emitParts compiler.dialect compiler.bindings
          (values.map fun value => [operandFragment folded value])).1,
        compiler.binding (emitParts compiler.dialect compiler.bindings
          (values.map fun value => [operandFragment folded value])).2) := by
  induction values generalizing compiler with
  | nil => rfl
  | cons value rest ih =>
      rw [bindEach, runFrom_bind, bindFolded, runFrom_bindValue]
      dsimp only
      rw [runFrom_bind, ih, List.map_cons, emitParts_cons, emitAll_singleton, operandFragment]
      rfl

theorem realizes_membership (key : String) (negated : Bool) (items : List Filter) :
    Realizes (membership key negated items) compiler (compiler.scope.membership key negated items)
      compiler.written := by
  refine (realizes_ofExcept (Scope.listValues key items)).bind_map fun values _ => ?_
  rw [binding_bindings]
  dsimp only
  split
  · exact realizes_pure (by cases negated <;> rfl)
  · rw [Realizes, runFrom_bind, runFrom_column]
    dsimp only
    rw [runFrom_bind, runFrom_bindEach]
    dsimp only
    rw [runFrom_pure, written, Predicate.fragments, Condition.fragments, List.append_assoc,
      emitAll_column, List.cons_append, emitAll_fixed, emitAll_append, emitAll_separated,
      emitAll_singleton]
    simp only [String.append_assoc]
    rfl

theorem realizes_textMatch (key spelling : String) (kind : TextMatch) (value : Value) :
    Realizes (textMatch key spelling kind value) compiler
      (compiler.scope.textMatch key spelling kind value) compiler.written := by
  rw [textMatch, Scope.textMatch]
  split
  · exact realizes_throw _
  · rw [Realizes, runFrom_bind, runFrom_column]
    dsimp only
    rw [runFrom_bind, runFrom_bindPattern]
    dsimp only
    rw [runFrom_bind, runFrom_get, written, Predicate.fragments, Condition.fragments,
      emitAll_column, emitAll_fixed, emitAll_singleton]
    simp only [String.append_assoc]
    rfl

theorem realizes_operation (key spelling : String) (operator : Operator) (operand : Filter) :
    Realizes (operation key spelling operator operand) compiler
      (compiler.scope.operation key spelling operator operand) compiler.written := by
  cases operand with
  | value value =>
      cases operator with
      | textMatch kind => exact realizes_textMatch key spelling kind value
      | not =>
          rw [operation, Scope.operation]
          split
          · exact realizes_null key true
          · exact realizes_compare key .notEqual value
      | compare comparison => exact realizes_compare key (.order comparison) value
  | list items =>
      rw [operation, Scope.operation]
      split
      · exact realizes_membership key true items
      · exact realizes_throw _
  | object entries => exact realizes_throw _

theorem realizes_operations (key : String) (entries : Criteria) :
    Realizes (operations key entries) compiler (compiler.scope.operations key entries)
      compiler.writtenEach := by
  induction entries generalizing compiler with
  | nil => exact realizes_pure rfl
  | cons entry rest ih =>
      obtain ⟨spelling, operand⟩ := entry
      rw [operations, Scope.operations]
      cases Operator.ofKey? spelling with
      | none => exact realizes_throw _
      | some operator =>
          refine (realizes_operation key spelling operator operand).bind fun predicate _ => ?_
          exact ih.map fun predicates => rfl

theorem realizes_patterns (entries : Criteria) :
    Realizes (patterns entries) compiler (compiler.scope.patterns entries)
      compiler.writtenEach := by
  induction entries generalizing compiler with
  | nil => exact realizes_pure rfl
  | cons entry rest ih =>
      obtain ⟨key, pattern⟩ := entry
      cases pattern with
      | value value =>
          refine (realizes_textMatch key "like" .like value).bind fun predicate _ => ?_
          exact ih.map fun predicates => rfl
      | list items => exact realizes_throw _
      | object entries => exact realizes_throw _

theorem writtenOption_every? (predicates : List Predicate) :
    compiler.writtenOption (Scope.every? predicates) =
      (every? (compiler.writtenEach predicates).1, (compiler.writtenEach predicates).2) := by
  cases predicates with
  | nil => rfl
  | cons predicate rest =>
      have together :=
        @Conditions.emitEach_eq compiler.dialect compiler.bindings (predicate :: rest)
      have isSome : Scope.every? (predicate :: rest) = some (.every (predicate :: rest)) := rfl
      rw [isSome, writtenOption, written, Predicate.fragments, Predicate.partsFragments_eq_map,
        ← together]
      rfl

theorem isEmpty_writtenEach (predicates : List Predicate) :
    (compiler.writtenEach predicates).1.isEmpty = predicates.isEmpty := by
  cases predicates <;> rfl

theorem prefix_writtenEach (predicates : List Predicate) :
    compiler.bindings.values <+: (compiler.writtenEach predicates).2.values := by
  rw [writtenEach, (Prod.mk.inj (Conditions.emitEach_eq compiler.bindings predicates)).2]
  exact prefix_emitAll _

/-! Parts of the criteria. -/

/-- What the elements of a group are written as.  If the group constrains nothing, what was bound
before it is bound again. -/
def writtenElements (compiler : Compiler) (before : Bindings) :
    Option (List (List Predicate)) → Option (List String) × Bindings
  | none => (none, before)
  | some elements =>
      let (texts, bindings) := emitParts compiler.dialect compiler.bindings
        (Predicate.elementsFragments compiler.dialect elements)
      (some texts, bindings)

theorem scope_inner (key : String) (related : Table) :
    scope { compiler with inner? := some (compiler.scope.associationQualifier key, related) } =
      compiler.scope.enter key related := by
  rw [scope]
  dsimp only
  rw [scope]
  split <;> rfl

theorem realizes_predicates_cons {key : String} {filter : Filter} {rest : List (String × Filter)}
    (first : Realizes (expand key filter) compiler (compiler.scope.expand key filter)
      compiler.writtenOption)
    (others : ∀ bindings, Realizes (predicates rest) (compiler.binding bindings)
      (compiler.scope.expandAll rest) (compiler.binding bindings).writtenEach) :
    Realizes (predicates ((key, filter) :: rest)) compiler
      (compiler.scope.expandAll ((key, filter) :: rest)) compiler.writtenEach := by
  rw [predicates, Scope.expandAll]
  refine first.bind fun predicate _ => (others _).map fun predicates => ?_
  cases predicate <;> rfl

theorem writtenElements_map_cons (before : Bindings) (predicates : List Predicate)
    (elements : Option (List (List Predicate))) :
    compiler.writtenElements before (elements.map (predicates :: ·)) =
      let (texts, bindings) := compiler.writtenEach predicates
      let (others, bindings) := (compiler.binding bindings).writtenElements before elements
      (others.map (parenthesized (String.intercalate " AND " texts) :: ·), bindings) := by
  cases elements with
  | none => rfl
  | some elements =>
      have together := @Conditions.emitEach_eq compiler.dialect compiler.bindings predicates
      rw [Option.map_some, writtenElements, Predicate.elementsFragments, emitParts_cons,
        Predicate.emitAll_parenthesized, Predicate.partsFragments_eq_map, ← together]
      rfl

theorem writtenOption_group (connective : Connective) (elements : Option (List (List Predicate))) :
    compiler.writtenOption (elements.bind fun elements =>
        if elements.isEmpty then none else some (.group connective elements)) =
      ((compiler.writtenElements compiler.bindings elements).1.bind (group? connective),
        (compiler.writtenElements compiler.bindings elements).2) := by
  match elements with
  | none | some [] => rfl
  | some (element :: rest) =>
      rw [Option.bind_some, if_neg (by simp), writtenOption, written, Predicate.fragments,
        Predicate.emitAll_parenthesized, emitAll_separated]
      rfl

theorem realizes_rollBack {before : Bindings} (added : before.values <+: compiler.bindings.values) :
    Realizes (do rollBack before.values.length before.next; return none) compiler (.ok none)
      (compiler.writtenElements before) := by
  have run : (do rollBack before.values.length before.next; return none :
        Compile (Option (List String))).runFrom compiler =
      (.ok none, compiler.binding
        { values := compiler.bindings.values.take before.values.length
          next := before.next }) := rfl
  rw [← List.prefix_iff_eq_take.mp added] at run
  exact run

theorem realizes_elements_cons {connective : Connective} {entries : List (String × Filter)}
    {rest : List Filter} {before : Bindings} (added : before.values <+: compiler.bindings.values)
    (element : Realizes (predicates entries) compiler (compiler.scope.expandAll entries)
      compiler.writtenEach)
    (others : ∀ bindings : Bindings, before.values <+: bindings.values →
      Realizes (elements connective before.values.length before.next rest)
        (compiler.binding bindings) (compiler.scope.expandElements connective rest)
        ((compiler.binding bindings).writtenElements before)) :
    Realizes (elements connective before.values.length before.next (.object entries :: rest))
      compiler (compiler.scope.expandElements connective (.object entries :: rest))
      (compiler.writtenElements before) := by
  rw [elements, Scope.expandElements]
  refine element.bind fun predicates _ => ?_
  have following := others _ (added.trans (prefix_writtenEach predicates))
  rw [isEmpty_writtenEach]
  cases predicates with
  | cons predicate more =>
      exact following.map (writtenElements_map_cons before (predicate :: more))
  | nil =>
      rw [if_pos List.isEmpty_nil, if_pos List.isEmpty_nil]
      split
      · exact realizes_rollBack added
      · exact following

theorem realizes_inside {key : String} {related : Table} {entries : List (String × Filter)}
    (inner : ∀ compiler : Compiler, Realizes (predicates entries) compiler
      (compiler.scope.expandAll entries) compiler.writtenEach) :
    Realizes (inside (compiler.scope.associationQualifier key) related (predicates entries))
      compiler ((compiler.scope.enter key related).expandAll entries) compiler.writtenEach := by
  have realizes :=
    inner { compiler with inner? := some (compiler.scope.associationQualifier key, related) }
  rw [scope_inner] at realizes
  exact realizes.inside

theorem realizes_expand_object {key : String} {entries : List (String × Filter)}
    (inner : ∀ compiler : Compiler, Realizes (predicates entries) compiler
      (compiler.scope.expandAll entries) compiler.writtenEach) :
    Realizes (expand key (.object entries)) compiler (compiler.scope.expand key (.object entries))
      compiler.writtenOption := by
  rw [expand, Scope.expand]
  cases CriteriaKey.ofText key with
  | group connective => exact realizes_throw _
  | patterns => exact (realizes_patterns entries).map writtenOption_every?
  | column key =>
      refine Realizes.of_get ((realizes_ofExcept _).bind fun related _ => ?_)
      rw [binding_bindings]
      cases related with
      | some related => exact (realizes_inside inner).map writtenOption_every?
      | none => exact (realizes_operations key entries).map writtenOption_every?

theorem realizes_expand_list {key : String} {items : List Filter}
    (each : ∀ connective,
      Realizes (elements connective compiler.bindings.values.length compiler.bindings.next items)
        compiler (compiler.scope.expandElements connective items)
        (compiler.writtenElements compiler.bindings)) :
    Realizes (expand key (.list items)) compiler (compiler.scope.expand key (.list items))
      compiler.writtenOption := by
  rw [expand, Scope.expand]
  cases CriteriaKey.ofText key with
  | group connective =>
      dsimp only
      split
      · exact realizes_throw _
      · exact Realizes.of_get ((each connective).map (writtenOption_group connective))
  | patterns => exact realizes_throw _
  | column key => exact (realizes_membership key false items).map fun predicate => rfl

theorem realizes_expand_value (key : String) (value : Value) :
    Realizes (expand key (.value value)) compiler (compiler.scope.expand key (.value value))
      compiler.writtenOption := by
  rw [expand, Scope.expand]
  cases CriteriaKey.ofText key with
  | group connective => exact realizes_throw _
  | patterns => exact realizes_throw _
  | column key =>
      exact (realizes_equality key value).map fun predicate => rfl

mutual

theorem realizes_predicates : ∀ (entries : List (String × Filter)) (compiler : Compiler),
    Realizes (predicates entries) compiler (compiler.scope.expandAll entries) compiler.writtenEach
  | [], _ => realizes_pure rfl
  | (key, filter) :: rest, compiler =>
      realizes_predicates_cons (realizes_expand key filter compiler) fun bindings =>
        realizes_predicates rest (compiler.binding bindings)
termination_by structural entries => entries

/-- The compiler returns the text of the predicate that a key expands into, or fails as expansion
does, in a scope that is the one before. -/
theorem realizes_expand (key : String) : ∀ (filter : Filter) (compiler : Compiler),
    Realizes (expand key filter) compiler (compiler.scope.expand key filter)
      compiler.writtenOption
  | .value value, _ => realizes_expand_value key value
  | .list items, _ =>
      realizes_expand_list fun connective =>
        realizes_elements connective items List.prefix_rfl
  | .object entries, _ => realizes_expand_object (realizes_predicates entries)
termination_by structural filter => filter

theorem realizes_elements (connective : Connective) : ∀ (items : List Filter)
    {compiler : Compiler} {before : Bindings}, before.values <+: compiler.bindings.values →
    Realizes (elements connective before.values.length before.next items) compiler
      (compiler.scope.expandElements connective items) (compiler.writtenElements before)
  | [], _, _, _ => realizes_pure rfl
  | .object entries :: rest, _, _, added =>
      realizes_elements_cons added (realizes_predicates entries _) fun _ added =>
        realizes_elements connective rest added
  | .value _ :: _, _, _, _ => realizes_throw _
  | .list _ :: _, _, _, _ => realizes_throw _
termination_by structural items => items

end

theorem realizes_conditions (query : Query) (unbound : compiler.bindings = {}) :
    Realizes (conditions query) compiler
      ((compiler.scope.expandAll query.criteria).map fun predicates =>
        ({ predicates, tail := Tail.of compiler.table query } : Conditions))
      fun conditions =>
        (conditions.write compiler.dialect, (compiler.writtenEach conditions.predicates).2) := by
  refine (realizes_predicates query.criteria compiler).bind_map fun predicates _ =>
    Realizes.of_get (realizes_pure ?_)
  rw [Conditions.write.eq_def, writtenEach, unbound]
  rfl

/-- The compiler compiles the conditions of a query as they are planned and written. -/
theorem compile_eq_conditions (schema : Schema) (dialect : Dialect) (name : String) (query : Query) :
    ((of schema dialect name).bind fun compiler => ((compile query).runFrom compiler).1) =
      Statement.conditions schema dialect name query := by
  rw [of, Statement.conditions]
  cases schema.require name with
  | error error => rfl
  | ok table =>
      have realizes := @realizes_conditions
        { schema, table, dialect, aliases := Conditions.joinAliases query.instructions } query rfl
      exact realizes.result_eq

end Compiler

end QuerySql
