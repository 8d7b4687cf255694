import QuerySql.Error
import QuerySql.Json.Parser
import QuerySql.Schema.Table

namespace QuerySql

structure Schema where
  tables : List (String × Table) := []
  deriving DecidableEq

namespace Schema

def isEmpty (schema : Schema) : Bool :=
  schema.tables.isEmpty

/-- A table without a name of its own is called like its identity. -/
def named (identity : String) (table : Table) : Table :=
  if table.name.isEmpty then { table with name := identity } else table

/-- Adds a table, or replaces the one under the same identity in its place. -/
def insert (schema : Schema) (identity : String) (table : Table) : Schema :=
  { tables := Fields.put schema.tables identity (named identity table) }

/-- Looks a table up by its identity first and then by its name. -/
def table? (schema : Schema) (name : String) : Option Table :=
  ((schema.tables.find? fun entry => entry.1 == name).or
    (schema.tables.find? fun entry => entry.2.name == name)).map Prod.snd

def require (schema : Schema) (name : String) : Except Error Table :=
  match schema.table? name with
  | some table => .ok table
  | none => .error (.unknownTable name)

def insertFields? (schema : Schema) : List (String × Json) → Option Schema
  | [] => some schema
  | (identity, json) :: rest =>
      (Table.ofJson? json).bind fun table => (schema.insert identity table).insertFields? rest

def ofJson? : Json → Option Schema
  | .object fields => insertFields? {} fields
  | _ => none

def toJson (schema : Schema) : Json :=
  .object (schema.tables.map fun (identity, table) => (identity, table.toJson))

def ofText (text : String) : Except Error Schema :=
  match (Json.parse? text).bind ofJson? with
  | some schema => .ok schema
  | none => .error .invalidSchema

end Schema

end QuerySql
