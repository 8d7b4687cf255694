import QuerySql.Json.Record
import QuerySql.Text.Case

namespace QuerySql

inductive AttributeType where
  | string
  | text
  | integer
  | float
  | boolean
  | date
  | datetime
  | binary
  | array
  | json
  | other (name : String)
  deriving DecidableEq

namespace AttributeType

/-- Type names are read without regard to case, and some are other names of text. -/
def ofName (name : String) : AttributeType :=
  let word := Text.lower name
  if word = "string" then .string
  else if word = "text" ∨ word = "mediumtext" ∨ word = "longtext" then .text
  else if word = "integer" then .integer
  else if word = "float" then .float
  else if word = "boolean" then .boolean
  else if word = "date" then .date
  else if word = "datetime" then .datetime
  else if word = "binary" then .binary
  else if word = "array" then .array
  else if word = "json" then .json
  else .other name

def name : AttributeType → String
  | .string => "string"
  | .text => "text"
  | .integer => "integer"
  | .float => "float"
  | .boolean => "boolean"
  | .date => "date"
  | .datetime => "datetime"
  | .binary => "binary"
  | .array => "array"
  | .json => "json"
  | .other name => name

def foldsCase : AttributeType → Bool
  | .string | .text => true
  | _ => false

end AttributeType

structure Attribute where
  type : Option AttributeType := none
  columnName : Option String := none
  primaryKey : Bool := false
  foreignKey : Bool := false
  references : Option String := none
  on : Option String := none
  collection : Option String := none
  model : Option String := none
  via : Option String := none
  deriving DecidableEq

namespace Attribute

def ofType (type : AttributeType) : Attribute :=
  { type := some type }

def toMany (model via : String) : Attribute :=
  { collection := some model, via := some via }

def withForeignKey (attr : Attribute) (table key : String) : Attribute :=
  { attr with
    foreignKey := true, model := some table, references := some table, on := some key }

def isCollection (attr : Attribute) : Bool :=
  attr.collection.isSome

def foldsCase (attr : Attribute) : Bool :=
  attr.type.any AttributeType.foldsCase

def relatedTable? (attr : Attribute) : Option String :=
  if !attr.foreignKey && attr.model.isNone then none
  else attr.references.or attr.model

def column (attr : Attribute) (name : String) : String :=
  attr.columnName.getD name

def fieldNames : Json.FieldNames :=
  [("type", []), ("columnName", []), ("primaryKey", []), ("foreignKey", []), ("references", []),
    ("on", []), ("collection", []), ("model", []), ("via", [])]

def ofJson? : Json → Option Attribute
  | .string type => some (ofType (AttributeType.ofName type))
  | json => do
      let fields ← Json.record? fieldNames json
      let text := fun name => Json.fieldOr fields name none (Json.nullable? Json.string?)
      let flag := fun name => Json.fieldOr fields name false Json.bool?
      let type ← text "type"
      let columnName ← text "columnName"
      let primaryKey ← flag "primaryKey"
      let foreignKey ← flag "foreignKey"
      let references ← text "references"
      let on ← text "on"
      let collection ← text "collection"
      let model ← text "model"
      let via ← text "via"
      return {
        type := type.map AttributeType.ofName
        columnName, primaryKey, foreignKey, references, on, collection, model, via }

def optionalField (name : String) (value : Option String) : List (String × Json) :=
  match value with
  | none => []
  | some text => [(name, .string text)]

def toJson (attr : Attribute) : Json :=
  .object (
    optionalField "type" (attr.type.map AttributeType.name)
      ++ optionalField "columnName" attr.columnName
      ++ [("primaryKey", .bool attr.primaryKey), ("foreignKey", .bool attr.foreignKey)]
      ++ optionalField "references" attr.references
      ++ optionalField "on" attr.on
      ++ optionalField "collection" attr.collection
      ++ optionalField "model" attr.model
      ++ optionalField "via" attr.via)

end Attribute

end QuerySql
