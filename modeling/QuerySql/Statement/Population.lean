import QuerySql.Statement.Conditions

namespace QuerySql

open Sql

structure JunctionLink where
  table : String
  junctionKey : ColumnRef
  childKey : ColumnRef

structure Population where
  attr : String
  columns : List Projected
  table : String
  link : Option JunctionLink
  key : ColumnRef
  conditions : Conditions

/-- The statement of a population, with a marker in the place of the parent's key. -/
structure PopulationTemplate where
  attr : String
  text : String
  values : List Value

namespace Population

def childColumns (table : Table) (select : Option (List String)) : List ColumnRef :=
  match select with
  | none | some [] => table.columns.map fun column => ⟨table.name, column⟩
  | some keys => (Selection.requestedColumns table keys).map fun column => ⟨table.name, column⟩

/-- The criteria of a stage.  Children come in the order of their primary key unless another order
is asked for. -/
def sortedCriteria (child : Table) (stage : Stage) : Query :=
  let query := stage.criteria.getD {}
  if query.sort.isEmpty then { query with sort := [(child.primaryKey, .ascending)] } else query

/-- The conditions on the child, which is looked up by its table name. -/
def childConditions (schema : Schema) (child : Table) (stage : Stage) : Except Error Conditions :=
  (schema.require child.name).bind fun table =>
    Conditions.of schema table (sortedCriteria child stage)

def perParent (schema : Schema) (attr : String) (stage : Stage) : Except Error Population :=
  (schema.require stage.child).bind fun child =>
    (childConditions schema child stage).map fun conditions =>
      { attr
        columns := (childColumns child stage.select).map .column
        table := child.name
        link := none
        key := child.columnRef stage.childKey
        conditions }

/-- Two stages lead from the parent to the junction and from there to the child.  The junction's
key is read as well, so that rows can be matched with parents. -/
def throughJunction (schema : Schema) (attr : String) (first second : Stage) :
    Except Error Population :=
  (schema.require first.child).bind fun junction =>
    (schema.require second.child).bind fun child =>
      (childConditions schema child second).map fun conditions =>
        let key := junction.columnRef first.childKey
        { attr
          columns :=
            (childColumns child second.select).map .column
              ++ [.renamed key ("___" ++ key.column)]
          table := child.name
          link := some {
            table := junction.name
            junctionKey := junction.columnRef second.parentKey
            childKey := child.columnRef second.childKey }
          key
          conditions }

def of? (schema : Schema) (attr : String) (instruction : Instruction) :
    Except Error (Option Population) :=
  match instruction.join with
  | .parentHoldsKey => .ok none
  | .childHoldsKey =>
      ((instruction.firstStage attr).bind (perParent schema attr)).map some
  | .junction =>
      match instruction.stages with
      | first :: second :: _ => (throughJunction schema attr first second).map some
      | stages => .error (.malformed (.tooFewStages attr stages.length))

def all (schema : Schema) : List (String × Instruction) → Except Error (List Population)
  | [] => .ok []
  | (attr, instruction) :: rest =>
      (of? schema attr instruction).bind fun population =>
        (all schema rest).map (population.toList ++ ·)

def linkFragments (dialect : Dialect) (link : JunctionLink) : List Fragment :=
  .fixed " INNER JOIN " :: aliasedTable dialect link.table link.table
    ++ .fixed " ON " :: link.junctionKey.fragments
    ++ .fixed " = " :: link.childKey.fragments

def headFragments (dialect : Dialect) (population : Population) : List Fragment :=
  .fixed "(SELECT "
    :: Fragment.separated ", " (population.columns.map (·.fragments dialect))
    ++ .fixed " FROM " :: aliasedTable dialect population.table population.table
    ++ (population.link.map (linkFragments dialect)).getD []
    ++ .fixed " WHERE " :: population.key.fragments ++ [.fixed " = "]

def restFragments (dialect : Dialect) (population : Population) : List Fragment :=
  (population.conditions.predicates.flatMap fun predicate =>
    .fixed " AND " :: predicate.fragments dialect)
    ++ population.conditions.tail.fragments ++ [.fixed ")"]

def fragments (dialect : Dialect) (population : Population) : List Fragment :=
  population.headFragments dialect ++ .parentKey :: population.restFragments dialect

def template (dialect : Dialect) (population : Population) : PopulationTemplate :=
  let (text, bindings) := Fragment.emitAll dialect {} (population.fragments dialect)
  { attr := population.attr, text, values := bindings.values }

end Population

def replaceFirst (target replacement : List Char) : List Char → List Char
  | [] => if target.isEmpty then replacement else []
  | char :: rest =>
      if target.isPrefixOf (char :: rest) then
        replacement ++ (char :: rest).drop target.length
      else char :: replaceFirst target replacement rest

namespace PopulationTemplate

def substitute (template : PopulationTemplate) (dialect : Dialect) (key : Value) : String :=
  String.ofList (replaceFirst parentKeyMarker.toList (dialectLiteral dialect key).toList
    template.text.toList)

def toJson (template : PopulationTemplate) : Json :=
  .object [
    ("attribute", .string template.attr),
    ("sql", .string template.text),
    ("values", .array (template.values.map Value.serialized))]

end PopulationTemplate

end QuerySql
