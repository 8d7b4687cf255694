import QuerySql.Schema.Basic
import QuerySql.Sql.Fragment

namespace QuerySql

open Sql

structure InsertStatement where
  text : String
  values : List Value

def InsertStatement.toJson (statement : InsertStatement) : Json :=
  .object [
    ("query", .string statement.text),
    ("values", .array (statement.values.map Value.serialized))]

namespace Statement

def insertColumn (dialect : Dialect) (column : String) : List Fragment :=
  if dialect.quotesInsertColumns then [.quoted column] else [.verbatim column]

def insertFragments (dialect : Dialect) (table : Table) (record : List (String × Value)) :
    List Fragment :=
  .fixed "INSERT INTO " :: tableFragments dialect table.name
    ++ .fixed " ("
    :: Fragment.separated ", " (record.map fun entry =>
        insertColumn dialect (table.column entry.1))
    ++ .fixed ") VALUES ("
    :: Fragment.separated ", " (record.map fun entry => [.operand entry.2])
    ++ [.fixed (if dialect.returnsRows then ") RETURNING *" else ")")]

def insert (schema : Schema) (dialect : Dialect) (name : String) (record : List (String × Value)) :
    Except Error InsertStatement :=
  (schema.require name).bind fun table =>
    if record.isEmpty then .error (.malformed (.emptyRecord name))
    else
      let (text, bindings) := Fragment.emitAll dialect {} (insertFragments dialect table record)
      .ok { text, values := bindings.values }

def insertJson (schema : Schema) (dialect : Dialect) (name : String) :
    Json → Except Error InsertStatement
  | .object fields =>
      insert schema dialect name (fields.map fun (key, json) => (key, Value.ofJson json))
  | _ => .error (.malformed (.recordNotObject name))

end Statement

end QuerySql
