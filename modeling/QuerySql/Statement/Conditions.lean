import QuerySql.Predicate.Expansion
import QuerySql.Statement.Selection

namespace QuerySql

open Sql

structure Conditions where
  predicates : List Predicate
  tail : Tail

structure WrittenConditions where
  predicates : List String
  tail : String
  values : List Value

namespace Conditions

def joinAliases (instructions : List (String × Instruction)) : List (String × String) :=
  instructions.filterMap fun (attr, instruction) =>
    if instruction.join = .parentHoldsKey then
      instruction.stages.head?.map fun stage => (attr, stage.associationName attr)
    else none

def scope (schema : Schema) (table : Table) (query : Query) : Scope :=
  Scope.root schema table (joinAliases query.instructions)

def of (schema : Schema) (table : Table) (query : Query) : Except Error Conditions :=
  ((scope schema table query).expandAll query.criteria).map fun predicates =>
    { predicates, tail := Tail.of table query }

def emitEach (dialect : Dialect) (bindings : Bindings) : List Predicate → List String × Bindings
  | [] => ([], bindings)
  | predicate :: rest =>
      let (text, bindings) := Fragment.emitAll dialect bindings (predicate.fragments dialect)
      let (texts, bindings) := emitEach dialect bindings rest
      (text :: texts, bindings)

theorem emitEach_cons (dialect : Dialect) (bindings : Bindings) (predicate : Predicate)
    (rest : List Predicate) :
    emitEach dialect bindings (predicate :: rest) =
      ((Fragment.emitAll dialect bindings (predicate.fragments dialect)).1
          :: (emitEach dialect
            (Fragment.emitAll dialect bindings (predicate.fragments dialect)).2 rest).1,
        (emitEach dialect
          (Fragment.emitAll dialect bindings (predicate.fragments dialect)).2 rest).2) := rfl

def write (dialect : Dialect) (conditions : Conditions) : WrittenConditions :=
  let (predicates, bindings) := emitEach dialect {} conditions.predicates
  { predicates
    tail := Fragment.text dialect conditions.tail.fragments
    values := bindings.values }

end Conditions

namespace WrittenConditions

def predicate? (written : WrittenConditions) : Option String :=
  if written.predicates.isEmpty then none
  else some (String.intercalate " AND " written.predicates)

def text (written : WrittenConditions) : String :=
  match written.predicate? with
  | some predicate => "WHERE " ++ predicate ++ written.tail
  | none => (written.tail.drop 1).toString

end WrittenConditions

end QuerySql
