import QuerySql.Proofs.Compiler.Realization
import QuerySql.Proofs.Predicate.Marker
import QuerySql.Proofs.Predicate.Requalified
import QuerySql.Proofs.Statement.Conditions
import QuerySql.Statement.Find

namespace QuerySql

open Sql

namespace Conditions

variable {dialect : Dialect}

theorem emitEach_append (bindings : Bindings) (front back : List Predicate) :
    emitEach dialect bindings (front ++ back) =
      ((emitEach dialect bindings front).1
          ++ (emitEach dialect (emitEach dialect bindings front).2 back).1,
        (emitEach dialect (emitEach dialect bindings front).2 back).2) := by
  induction front generalizing bindings with
  | nil => rfl
  | cons predicate rest ih =>
      rw [List.cons_append, emitEach_cons, emitEach_cons, ih]
      rfl

def joined (texts : List String) : List String :=
  if texts.isEmpty then [] else [String.intercalate " AND " texts]

theorem emitEach_every? (bindings : Bindings) (predicates : List Predicate) :
    emitEach dialect bindings (Scope.every? predicates).toList =
      (joined (emitEach dialect bindings predicates).1,
        (emitEach dialect bindings predicates).2) := by
  cases predicates with
  | nil => rfl
  | cons predicate rest =>
      have written := @emitEach_eq dialect bindings (predicate :: rest)
      have every : Scope.every? (predicate :: rest) = some (.every (predicate :: rest)) := rfl
      have texts : joined (emitEach dialect bindings (predicate :: rest)).1 =
          [String.intercalate " AND " (emitEach dialect bindings (predicate :: rest)).1] := rfl
      rw [every, texts, Option.toList_some, emitEach_cons, Predicate.fragments,
        Predicate.partsFragments_eq_map, ← written]
      rfl

end Conditions

namespace Scope

/-- Compiles criteria behind what has been bound so far: their predicates, and what has been bound
then. -/
def compile (scope : Scope) (dialect : Dialect) (bindings : Bindings) (criteria : Criteria) :
    Except Error (List String × Bindings) :=
  (scope.expandAll criteria).map (Conditions.emitEach dialect bindings)

variable {scope : Scope} {dialect : Dialect} {key : String} {entries : Criteria} {related : Table}

theorem compile_cons {filter : Filter} {inside : Except Error (List Predicate)}
    (expanded : scope.expand key filter = inside.map every?) (bindings : Bindings)
    (rest : Criteria) :
    scope.compile dialect bindings ((key, filter) :: rest) =
      (inside.map (Conditions.emitEach dialect bindings)).bind fun first =>
        (scope.compile dialect first.2 rest).map fun following =>
          (Conditions.joined first.1 ++ following.1, following.2) := by
  rw [compile, expandAll, expanded]
  cases inside with
  | error error => rfl
  | ok predicates =>
      simp only [Except.map, Except.bind, compile]
      cases scope.expandAll rest with
      | error error => rfl
      | ok others => simp only [Conditions.emitEach_append, Conditions.emitEach_every?]

/-- The scope of a query on the related table under the name that the filter refers to it by. -/
def detached (scope : Scope) (key : String) (related : Table) : Scope :=
  root scope.schema { related with name := scope.associationQualifier key } scope.aliases

theorem sharesTable_detached (scope : Scope) (key : String) (related : Table) :
    SharesTable (scope.detached key related) (scope.enter key related) :=
  ⟨rfl, rfl⟩

theorem agreesOn_detached (scope : Scope) (key : String) (related : Table) (leaves : List Leaf) :
    AgreesOn id (scope.detached key related) (scope.enter key related) leaves :=
  fun _ _ _ => rfl

theorem expandAll_detached (scope : Scope) (key : String) (related : Table) (entries : Criteria) :
    (scope.enter key related).expandAll entries =
      (scope.detached key related).expandAll entries :=
  expandAll_eq_of_agreesOn (sharesTable_detached scope key related)
    (agreesOn_detached scope key related _)

end Scope

namespace Compiler

open Compile

variable {key : String} {entries : Criteria} {related : Table}

/-- The compiler of a query on the related table, in the state that this one is in. -/
def detached (compiler : Compiler) (key : String) (related : Table) : Compiler :=
  { compiler with
    table := { related with name := compiler.scope.associationQualifier key }
    inner? := none }

theorem scope_detached (compiler : Compiler) (key : String) (related : Table) :
    (compiler.detached key related).scope = compiler.scope.detached key related := by
  rw [scope, detached, scope, Scope.detached]
  cases compiler.inner? <;> rfl

theorem run_expand_associated (compiler : Compiler)
    (isColumn : CriteriaKey.ofText key = .column key)
    (isFilter : compiler.scope.associated key entries = .ok (some related)) :
    (expand key (.object entries)).runFrom compiler =
      (every? <$> inside (compiler.scope.associationQualifier key) related
        (predicates entries)).runFrom compiler := by
  rw [expand, isColumn]
  dsimp only
  rw [runFrom_bind, runFrom_get]
  dsimp only
  rw [isFilter, runFrom_bind, runFrom_ofExcept]
  rfl

/-- A run ends as another does, but in the scope of the given compiler: with the same result and
what the other has bound, or with the same error. -/
inductive EndsAs {α : Type} (compiler : Compiler) :
    Except Error α × Compiler → Except Error α × Compiler → Prop
  | returned (result : α) (after : Compiler) :
      EndsAs compiler (.ok result, { compiler with bindings := after.bindings }) (.ok result, after)
  | failed (error : Error) (bindings : Bindings) (after : Compiler) :
      EndsAs compiler (.error error, { compiler with bindings }) (.error error, after)

theorem run_inside (compiler : Compiler) (key : String) (related : Table) (entries : Criteria) :
    EndsAs compiler
      ((inside (compiler.scope.associationQualifier key) related (predicates entries)).runFrom
        compiler)
      ((predicates entries).runFrom (compiler.detached key related)) := by
  have within := @realizes_inside compiler key related entries (realizes_predicates entries)
  have alone := realizes_predicates entries (compiler.detached key related)
  rw [scope_detached, ← Scope.expandAll_detached] at alone
  cases planned : (compiler.scope.enter key related).expandAll entries with
  | ok predicates =>
      rw [planned] at within alone
      rw [within.run_eq, alone.run_eq]
      exact .returned (compiler.writtenEach predicates).1
        ((compiler.detached key related).binding (compiler.writtenEach predicates).2)
  | error error =>
      rw [planned] at within alone
      obtain ⟨bindings, fails⟩ := within
      obtain ⟨_, failsAlone⟩ := alone
      rw [fails, failsAlone]
      exact .failed _ _ _

end Compiler

namespace Scope

/-- A filter on an association compiles as the criteria of a query on the related table do, behind
the same values and with the same joins: to the same predicates, values and next placeholder, or
with the same error.  The keys that follow it compile in the outer scope again, which the compiler
has on both ways out of the filter. -/
theorem compile_associated (isColumn : CriteriaKey.ofText key = .column key)
    (isFilter : scope.associated key entries = .ok (some related)) (dialect : Dialect)
    (bindings : Bindings) :
    (scope.enter key related).compile dialect bindings entries =
        (scope.detached key related).compile dialect bindings entries ∧
      (∀ rest, scope.compile dialect bindings ((key, .object entries) :: rest) =
        ((scope.detached key related).compile dialect bindings entries).bind fun inside =>
          (scope.compile dialect inside.2 rest).map fun following =>
            (Conditions.joined inside.1 ++ following.1, following.2)) ∧
      (∀ query : Query, query.criteria = entries →
        Conditions.joinAliases query.instructions = scope.aliases →
        (Conditions.of scope.schema { related with name := scope.associationQualifier key }
            query).map (fun conditions =>
              Conditions.emitEach dialect bindings conditions.predicates) =
          (scope.detached key related).compile dialect bindings entries) ∧
      ∀ compiler : Compiler, compiler.scope = scope →
        (Compiler.expand key (.object entries)).runFrom compiler =
          (Compiler.every? <$> Compiler.inside (scope.associationQualifier key) related
            (Compiler.predicates entries)).runFrom compiler ∧
        Compiler.EndsAs compiler
          ((Compiler.inside (scope.associationQualifier key) related
            (Compiler.predicates entries)).runFrom compiler)
          ((Compiler.predicates entries).runFrom (compiler.detached key related)) := by
  refine ⟨congrArg _ (expandAll_detached scope key related entries), fun rest => ?_, ?_, ?_⟩
  · refine compile_cons ?_ bindings rest
    rw [expand_associated isColumn isFilter, expandAll_detached]
  · rintro query rfl sameAliases
    rw [Conditions.of, Conditions.scope, sameAliases, compile, detached]
    cases expandAll _ query.criteria <;> rfl
  · rintro compiler rfl
    exact ⟨compiler.run_expand_associated isColumn isFilter,
      compiler.run_inside key related entries⟩

def staffSchema : Schema where
  tables := [
    ("employee", {
      name := "employee"
      attributes := [
        ("name", .ofType .string),
        ("boss", Attribute.withForeignKey { columnName := some "boss_id" } "employee" "id"),
        ("team", Attribute.withForeignKey {} "team" "id")] }),
    ("team", { name := "team", attributes := [("label", .ofType .string)] })]

def staffScope : Scope :=
  root staffSchema ((staffSchema.table? "employee").getD { name := "" }) [("team", "squad")]

def bossFilter : Criteria := [
  ("name", .value (.string "Ann")),
  ("or", .list [.object [("team", .object [("label", .value (.string "Core"))])], .object []]),
  ("team", .object [("label", .value (.string "Ops"))])]

def staffCompiler : Compiler where
  schema := staffSchema
  table := (staffSchema.table? "employee").getD { name := "" }
  dialect := {}
  aliases := [("team", "squad")]
  bindings := { values := [.int 7], next := 2 }

theorem compile_associated_boss :
    ∃ related inside after, CriteriaKey.ofText "boss" = .column "boss" ∧
      staffScope.associated "boss" bossFilter = .ok (some related) ∧
      (staffScope.detached "boss" related).compile {} { values := [.int 7], next := 2 }
        bossFilter = .ok inside ∧
      inside.1 = ["LOWER(\"__boss\".\"name\") = $2", "LOWER(\"__squad\".\"label\") = $3"] ∧
      inside.2.next = 4 ∧
      (staffScope.enter "boss" related).compile {} { values := [.int 7], next := 2 } bossFilter =
        .ok inside ∧
      staffScope.compile {} { values := [.int 7], next := 2 }
          [("boss", .object bossFilter), ("name", .value (.string "Bo"))] =
        (staffScope.compile {} inside.2 [("name", .value (.string "Bo"))]).map (fun following =>
          (Conditions.joined inside.1 ++ following.1, following.2)) ∧
      (Compiler.predicates bossFilter).runFrom (staffCompiler.detached "boss" related) =
        (.ok inside.1, after) ∧
      after.bindings.next = 4 ∧
      (Compiler.inside (staffScope.associationQualifier "boss") related
        (Compiler.predicates bossFilter)).runFrom staffCompiler =
          (.ok inside.1, { staffCompiler with bindings := after.bindings }) := by
  let employee := (staffSchema.table? "employee").getD { name := "" }
  have isFilter : staffScope.associated "boss" bossFilter = .ok (some employee) := by decide
  have counted : ((staffScope.detached "boss" employee).compile {}
      { values := [.int 7], next := 2 } bossFilter).map (fun inside =>
        (inside.1, inside.2.next)) =
      .ok (["LOWER(\"__boss\".\"name\") = $2", "LOWER(\"__squad\".\"label\") = $3"], 4) := by
    decide +kernel
  have result : ((Compiler.predicates bossFilter).runFrom
      (staffCompiler.detached "boss" employee)).1 =
        .ok ["LOWER(\"__boss\".\"name\") = $2", "LOWER(\"__squad\".\"label\") = $3"] := by
    decide +kernel
  have number : ((Compiler.predicates bossFilter).runFrom
      (staffCompiler.detached "boss" employee)).2.bindings.next = 4 := by
    decide +kernel
  obtain ⟨inside, compiled, isCount⟩ := exists_of_map_eq_ok counted
  obtain ⟨texts, next⟩ := Prod.mk.inj isCount
  have isColumn : CriteriaKey.ofText "boss" = .column "boss" := rfl
  obtain ⟨same, following, _, runs⟩ :=
    compile_associated isColumn isFilter {} { values := [.int 7], next := 2 }
  rw [compiled] at same
  obtain ⟨_, runs⟩ := runs staffCompiler rfl
  rcases alone : (Compiler.predicates bossFilter).runFrom (staffCompiler.detached "boss" employee)
    with ⟨returned, after⟩
  rw [alone] at runs result number
  cases result
  generalize within : (Compiler.inside (staffScope.associationQualifier "boss") employee
    (Compiler.predicates bossFilter)).runFrom staffCompiler = ended at runs
  cases runs
  rw [← texts] at alone within
  refine ⟨employee, inside, after, isColumn, isFilter, compiled, texts, next, same, ?_, alone,
    number, within⟩
  rw [following, compiled]
  rfl

end Scope

namespace Conditions

variable {schema : Schema} {table : Table} {query : Query}

/-- The name under which the first join of an attribute is known, or else the attribute's own. -/
def joinedName (instructions : List (String × Instruction)) (key : String) : String :=
  ((joinAliases instructions).lookup key).getD key

theorem qualifierAt_scope (outer : List String) (key : String) :
    (scope schema table query).qualifierAt (outer ++ [key]) =
      "__" ++ joinedName query.instructions key := by
  rw [Scope.qualifierAt, List.getLast?_append_cons]
  rfl

theorem sharesTable_scope (query other : Query) :
    Scope.SharesTable (scope schema table query) (scope schema table other) :=
  ⟨rfl, rfl⟩

theorem agreesOn_scope {instructions : List (String × Instruction)} {leaves : List Leaf}
    (sameNames : ∀ leaf ∈ leaves, leaf.condition.column?.isSome → ∀ outer key,
      leaf.path = outer ++ [key] →
      joinedName instructions key = joinedName query.instructions key) :
    Scope.AgreesOn id (scope schema table query)
      (scope schema table { query with instructions }) leaves := by
  intro leaf member onColumn
  rcases List.eq_nil_or_concat leaf.path with isOwn | ⟨outer, key, inFilter⟩
  · rw [isOwn]
    rfl
  · rw [inFilter, List.concat_eq_append, qualifierAt_scope, qualifierAt_scope]
    rw [List.concat_eq_append] at inFilter
    exact congrArg _ (congrArg _ (sameNames leaf member onColumn outer key inFilter))

/-- Columns inside of a filter are referred to by the name of the first join of the root table under
the filter's key, however deep the filter lies and whatever table it is on.  So they are referred to
by the key itself unless a join of the root table has this attribute and another name; and other
joins change nothing where these names stay. -/
theorem qualifier_filters (schema : Schema) (table : Table) (query : Query) :
    (∀ conditions, of schema table query = .ok conditions →
      (conditions.predicates.flatMap Predicate.leaves).Sublist
        (((scope schema table query).leaves query.criteria).map Leaf.condition)) ∧
    (∀ leaf ∈ (scope schema table query).leaves query.criteria, ∀ outer key,
      leaf.path = outer ++ [key] → ∀ column ∈ leaf.condition.column?,
        column.ref.qualifier = "__" ++ joinedName query.instructions key ∧
        (column.ref.qualifier = "__" ++ key ↔
          ∀ association, (joinAliases query.instructions).lookup key = some association →
            association = key)) ∧
    ∀ instructions,
      (∀ leaf ∈ (scope schema table query).leaves query.criteria,
        leaf.condition.column?.isSome → ∀ outer key, leaf.path = outer ++ [key] →
          joinedName instructions key = joinedName query.instructions key) →
      of schema table { query with instructions } = of schema table query := by
  refine ⟨?_, ?_, ?_⟩
  · intro conditions compiled
    obtain ⟨predicates, expanded, rfl⟩ := exists_of_map_eq_ok compiled
    exact Scope.leaves_expandAll _ query.criteria predicates expanded
  · intro leaf member outer key inFilter column isColumn
    have qualified := Scope.qualifies_leaves _ query.criteria leaf member column isColumn
    rw [inFilter, qualifierAt_scope] at qualified
    refine ⟨qualified, ?_⟩
    rw [qualified, String.append_right_inj, joinedName]
    cases (joinAliases query.instructions).lookup key <;> simp
  · intro instructions sameNames
    have same := Scope.expandAll_eq_of_agreesOn
      (sharesTable_scope query { query with instructions }) (agreesOn_scope sameNames)
    exact congrArg
      (Except.map fun predicates => Conditions.mk predicates (Tail.of table query)) same

def petSchema : Schema where
  tables := [
    ("pet", {
      name := "pet"
      attributes := [
        ("owner", Attribute.withForeignKey {} "user" "id"),
        ("home", Attribute.withForeignKey {} "shelter" "id")] }),
    ("user", {
      name := "user", attributes := [("home", Attribute.withForeignKey {} "city" "id")] }),
    ("city", { name := "city", attributes := [("zip", .ofType .integer)] }),
    ("shelter", { name := "shelter", attributes := [("id", .ofType .integer)] })]

def homeStage (association : String) : Stage where
  parent := "pet"
  parentKey := "home"
  child := "shelter"
  childKey := "id"
  association := association

def homeQuery (association : String) : Query where
  filter := some [("owner", .object [("home", .object [("zip", .value (.int 7))])])]
  instructions := [("home", .of .parentHoldsKey [homeStage association])]

theorem qualifier_filters_home :
    ∃ table leaf column, petSchema.require "pet" = .ok table ∧
      leaf ∈ (scope petSchema table (homeQuery "")).leaves (homeQuery "").criteria ∧
      leaf.path = ["owner", "home"] ∧ column ∈ leaf.condition.column? ∧
      (joinAliases (homeQuery "").instructions).lookup "home" = some "home" ∧
      column.ref.qualifier = "__home" := by
  let pet := (petSchema.table? "pet").getD { name := "" }
  let zip : Column := ⟨⟨"__home", "zip"⟩, false⟩
  let leaf : Leaf := ⟨["owner", "home"], .compare zip .equal (.int 7)⟩
  have required : petSchema.require "pet" = .ok pet := by decide
  have member : leaf ∈ (scope petSchema pet (homeQuery "")).leaves (homeQuery "").criteria :=
    List.mem_cons_self
  have isJoined : (joinAliases (homeQuery "").instructions).lookup "home" = some "home" := by
    decide
  obtain ⟨_, qualified, _⟩ := qualifier_filters petSchema pet (homeQuery "")
  refine ⟨pet, leaf, zip, required, member, rfl, rfl, isJoined, ?_⟩
  refine (qualified leaf member ["owner"] "home" rfl zip rfl).2.mpr fun association isAlias => ?_
  exact (Option.some.inj (isJoined.symm.trans isAlias)).symm

/-- The owner's home is filtered on in the joined rows of the pet's, which is a shelter. -/
theorem qualifier_filters_joined :
    (Statement.conditions petSchema {} "pet" (homeQuery "den")).map WrittenConditions.text =
        .ok "WHERE \"__den\".\"zip\" = $1" ∧
      Statement.joins petSchema {} (homeQuery "den").instructions =
        .ok ["LEFT OUTER JOIN \"shelter\" AS \"__den\" ON \"pet\".\"home\" = \"__den\".\"id\""] ∧
      (Statement.conditions petSchema {} "pet" (homeQuery "")).map WrittenConditions.text =
        .ok "WHERE \"__home\".\"zip\" = $1" := by
  decide +kernel

end Conditions

end QuerySql
