import QuerySql.Statement.Join
import QuerySql.Statement.Population

/-!
The statements that read rows.  A plan holds all that a query asks for and does not depend on the
dialect; writing it gives the main statement, the values of its placeholders and a template for each
population.
-/

namespace QuerySql

open Sql

structure FindPlan where
  selection : Selection
  joins : List Join
  conditions : Conditions
  populations : List Population

structure FindStatement where
  text : String
  values : List Value
  populations : List PopulationTemplate

namespace FindPlan

def of (schema : Schema) (name : String) (query : Query) : Except Error FindPlan :=
  (schema.require name).bind fun table =>
    (Selection.of schema table query).bind fun selection =>
      (Join.all schema query.instructions).bind fun joins =>
        (Conditions.of schema table query).bind fun conditions =>
          (Population.all schema query.instructions).map fun populations =>
            { selection, joins, conditions, populations }

def joinFragments (dialect : Dialect) (joins : List Join) : List Fragment :=
  joins.flatMap fun join => join.fragments dialect ++ [.fixed " "]

def whereFragments (dialect : Dialect) (predicates : List Predicate) : List Fragment :=
  if predicates.isEmpty then []
  else
    .fixed "WHERE " :: Predicate.conjunction (predicates.map (·.fragments dialect))
      ++ [.fixed " "]

def fragments (dialect : Dialect) (plan : FindPlan) : List Fragment :=
  plan.selection.fragments dialect ++ .fixed " " :: joinFragments dialect plan.joins
    ++ whereFragments dialect plan.conditions.predicates
    ++ plan.conditions.tail.fragments

def write (dialect : Dialect) (plan : FindPlan) : FindStatement :=
  let (text, bindings) := Fragment.emitAll dialect {} (plan.fragments dialect)
  { text
    values := bindings.values
    populations := plan.populations.map (·.template dialect) }

end FindPlan

namespace FindStatement

def texts (statement : FindStatement) : List String :=
  statement.text :: statement.populations.map PopulationTemplate.text

def toJson (statement : FindStatement) : Json :=
  .object [
    ("query", .string statement.text),
    ("values", .array (statement.values.map Value.serialized)),
    ("populations", .array (statement.populations.map PopulationTemplate.toJson))]

end FindStatement

namespace Statement

def select (schema : Schema) (dialect : Dialect) (name : String) (query : Query) :
    Except Error String :=
  (schema.require name).bind fun table =>
    (Selection.of schema table query).map fun selection =>
      Fragment.text dialect (selection.fragments dialect)

def find (schema : Schema) (dialect : Dialect) (name : String) (query : Query) :
    Except Error FindStatement :=
  (FindPlan.of schema name query).map (FindPlan.write dialect)

def conditions (schema : Schema) (dialect : Dialect) (name : String) (query : Query) :
    Except Error WrittenConditions :=
  (schema.require name).bind fun table =>
    (Conditions.of schema table query).map (Conditions.write dialect)

def joins (schema : Schema) (dialect : Dialect) (instructions : List (String × Instruction)) :
    Except Error (List String) :=
  (Join.all schema instructions).map fun joins =>
    joins.map fun join => Fragment.text dialect (join.fragments dialect)

def population (schema : Schema) (dialect : Dialect) (attr : String) (instruction : Instruction) :
    Except Error (Option PopulationTemplate) :=
  (Population.of? schema attr instruction).map fun population =>
    population.map (·.template dialect)

end Statement

end QuerySql
