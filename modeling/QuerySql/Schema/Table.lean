import QuerySql.Schema.Attribute

namespace QuerySql

structure Table where
  name : String
  attributes : List (String × Attribute) := []
  deriving DecidableEq

namespace Table

def attribute? (table : Table) (name : String) : Option Attribute :=
  table.attributes.lookup name

/-- The attribute that a key stands for: one of that name before one with that column name. -/
def resolve? (table : Table) (key : String) : Option (String × Attribute) :=
  (table.attributes.find? fun entry => entry.1 == key).or
    (table.attributes.find? fun entry => entry.2.columnName == some key)

def column (table : Table) (key : String) : String :=
  match table.resolve? key with
  | some (name, attr) => attr.column name
  | none => key

/-- The attribute of the primary key, which is called `id` where none is marked. -/
def primaryKey (table : Table) : String :=
  match table.attributes.find? fun entry => entry.2.primaryKey with
  | some (name, _) => name
  | none => "id"

def isColumn (table : Table) (key : String) : Bool :=
  match table.resolve? key with
  | some (_, attr) => !attr.isCollection
  | none => true

def columns (table : Table) : List String :=
  (table.attributes.filter fun entry => !entry.2.isCollection).map fun entry =>
    entry.2.column entry.1

def fieldNames : Json.FieldNames :=
  [("tableName", []), ("attributes", ["definition"])]

def readAttributes? : Json → Option (List (String × Attribute))
  | .object fields =>
      fields.mapM fun field => (Attribute.ofJson? field.2).map fun attr => (field.1, attr)
  | _ => none

def ofJson? (json : Json) : Option Table := do
  let fields ← Json.record? fieldNames json
  let name ← Json.fieldOr fields "tableName" "" Json.string?
  let attributes ← Json.fieldOr fields "attributes" [] readAttributes?
  return { name, attributes }

def toJson (table : Table) : Json :=
  .object [
    ("tableName", .string table.name),
    ("attributes", .object (table.attributes.map fun (name, attr) => (name, attr.toJson)))]

end Table

end QuerySql
