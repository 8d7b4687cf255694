import QuerySql.Query.Basic
import QuerySql.Schema.Basic
import QuerySql.Statement.Tail

namespace QuerySql

open Sql

/-- The name under which an association is read: its alias, or else its attribute. -/
def Stage.associationName (stage : Stage) (attr : String) : String :=
  if stage.association.isEmpty then attr else stage.association

def joinQualifier (association : String) : String :=
  "__" ++ association

def Instruction.firstStage (instruction : Instruction) (attr : String) : Except Error Stage :=
  match instruction.stages with
  | stage :: _ => .ok stage
  | [] => .error (.malformed (.noStages attr))

inductive Projected where
  | column (ref : ColumnRef)
  | renamed (ref : ColumnRef) (name : String)
  | group (key : GroupKey) (index : Nat)
  | calculation (kind : Calculation) (ref : ColumnRef) (name : String)

structure Selection where
  table : String
  entries : List Projected

namespace Calculation

def function : Calculation → String
  | .sum => "SUM"
  | .average => "AVG"
  | .min => "MIN"
  | .max => "MAX"

def isCast : Calculation → Bool
  | .sum | .average => true
  | .min | .max => false

end Calculation

namespace Selection

def requestedColumns (table : Table) (keys : List String) : List String :=
  (keys.filter table.isColumn).map table.column

/-- The columns of a query's own table: those asked for, always with the primary key, or all. -/
def ownColumns (table : Table) (select : Option (List String)) : List ColumnRef :=
  match select with
  | none | some [] => table.columns.map table.columnRef
  | some keys =>
      let requested := (keys.filter table.isColumn).map table.columnRef
      if keys.any fun key => table.column key == table.column table.primaryKey then requested
      else table.columnRef table.primaryKey :: requested

def joinedColumns (schema : Schema) (attr : String) (instruction : Instruction) :
    Except Error (List Projected) :=
  (instruction.firstStage attr).bind fun stage =>
    (schema.require stage.child).map fun child =>
      let association := stage.associationName attr
      let columns :=
        match stage.select with
        | some keys => requestedColumns child keys
        | none => child.columns
      columns.map fun column =>
        .renamed ⟨joinQualifier association, column⟩ (association ++ "___" ++ column)

def allJoinedColumns (schema : Schema) :
    List (String × Instruction) → Except Error (List Projected)
  | [] => .ok []
  | (attr, instruction) :: rest =>
      if instruction.join = .parentHoldsKey then
        (joinedColumns schema attr instruction).bind fun columns =>
          (allJoinedColumns schema rest).map (columns ++ ·)
      else allJoinedColumns schema rest

def calculations (query : Query) : List (Calculation × List String) :=
  [(Calculation.sum, query.sum), (.average, query.average), (.min, query.min),
    (.max, query.max)].filterMap fun (calculation, keys) =>
      match keys with
      | none | some [] => none
      | some keys => some (calculation, keys)

def groupEntries (table : Table) (keys : List String) : List Projected :=
  keys.mapIdx fun index key => .group (table.groupKey key) index

/-- Groups and calculations, of which there is neither without the other. -/
def aggregate (table : Table) (query : Query) : Except Error (List Projected) :=
  match calculations query with
  | [] => .error .missingCalculation
  | (first, keys) :: rest =>
      match query.groupBy with
      | none | some [] => .error (.missingGroupBy first)
      | some groups =>
          .ok (groupEntries table groups
            ++ ((first, keys) :: rest).flatMap fun (calculation, keys) =>
              keys.map fun key => .calculation calculation (table.columnRef key) key)

def of (schema : Schema) (table : Table) (query : Query) : Except Error Selection :=
  (if query.isAggregate then aggregate table query
    else
      (allJoinedColumns schema query.instructions).map fun joined =>
        (ownColumns table query.select).map .column ++ joined).map fun entries =>
          { table := table.name, entries }

end Selection

namespace Projected

def fragments (dialect : Dialect) : Projected → List Fragment
  | .column ref => ref.fragments
  | .renamed ref name => ref.fragments ++ [.fixed " AS ", .quoted name]
  | .group (.column ref) _ => ref.fragments
  | .group (.expression text) index =>
      [.verbatim text, .fixed (" as group" ++ Text.decimal index)]
  | .calculation kind ref name =>
      let expression := .fixed (kind.function ++ "(") :: ref.fragments ++ [.fixed ")"]
      (if dialect.casting && kind.isCast then
          .fixed "CAST(" :: expression ++ [.fixed " AS float)"]
        else expression)
        ++ [.fixed " AS ", .verbatim name]

end Projected

def Selection.fragments (dialect : Dialect) (selection : Selection) : List Fragment :=
  .fixed "SELECT " :: Fragment.separated ", " (selection.entries.map (·.fragments dialect))
    ++ .fixed " FROM " :: aliasedTable dialect selection.table selection.table ++ [.fixed " "]

end QuerySql
