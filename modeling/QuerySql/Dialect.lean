import QuerySql.Json.Record

namespace QuerySql

abbrev Qualifiers := Fields String

structure Features where
  /-- Compares text as it is written, whatever the engine does. -/
  caseSensitive : Bool := false
  deriving DecidableEq

/-- The defaults are those of an engine with `$n` placeholders and double-quoted identifiers. -/
structure Dialect where
  /-- Values are bound to placeholders; otherwise they are written into the text. -/
  parameterized : Bool := true
  /-- The engine tells upper from lower case when it compares text. -/
  caseSensitive : Bool := true
  quote : Char := '"'
  qualifiers : Qualifiers := []
  features : Features := {}
  casting : Bool := true
  returnsRows : Bool := true
  quotesInsertColumns : Bool := true
  deriving DecidableEq

namespace Dialect

def postgres : Dialect := {}

def mysql : Dialect where
  parameterized := false
  caseSensitive := false
  quote := '`'
  casting := false
  returnsRows := false

/-- Whether comparisons of text columns have to fold case themselves. -/
def foldsCase (dialect : Dialect) : Bool :=
  dialect.caseSensitive && !dialect.features.caseSensitive

def withQualifier (dialect : Dialect) (table schema : String) : Dialect :=
  { dialect with qualifiers := dialect.qualifiers.putSorted table schema }

def featureNames : Json.FieldNames :=
  [("case_sensitive", ["caseSensitive"])]

def fieldNames : Json.FieldNames :=
  [("parameterized", []), ("case_sensitive", ["caseSensitive"]),
    ("escape_character", ["escapeCharacter"]), ("schema_name", ["schemaName"]),
    ("wl_next", ["wlNext"]), ("casting", []), ("can_return_values", ["canReturnValues"]),
    ("escape_inserts", ["escapeInserts"])]

def readFeatures? (json : Json) : Option Features := do
  let fields ← Json.record? featureNames json
  let caseSensitive ← Json.fieldOr fields "case_sensitive" false Json.bool?
  return { caseSensitive }

def readQualifier? (field : String × Json) : Option (String × String) :=
  field.2.string?.map fun schema => (field.1, schema)

def readQualifiers? : Json → Option Qualifiers
  | .object fields => (fields.mapM readQualifier?).map Fields.sorted
  | _ => none

def ofJson? (json : Json) : Option Dialect := do
  let fields ← Json.record? fieldNames json
  let parameterized ← Json.fieldOr fields "parameterized" true Json.bool?
  let caseSensitive ← Json.fieldOr fields "case_sensitive" true Json.bool?
  let quote ← Json.fieldOr fields "escape_character" '"' Json.char?
  let qualifiers ← Json.fieldOr fields "schema_name" [] readQualifiers?
  let features ← Json.fieldOr fields "wl_next" {} readFeatures?
  let casting ← Json.fieldOr fields "casting" true Json.bool?
  let returnsRows ← Json.fieldOr fields "can_return_values" true Json.bool?
  let quotesInsertColumns ← Json.fieldOr fields "escape_inserts" true Json.bool?
  return {
    parameterized, caseSensitive, quote, qualifiers, features, casting, returnsRows,
    quotesInsertColumns }

def toJson (dialect : Dialect) : Json :=
  .object [
    ("parameterized", .bool dialect.parameterized),
    ("case_sensitive", .bool dialect.caseSensitive),
    ("escape_character", .string (String.singleton dialect.quote)),
    ("schema_name",
      .object (dialect.qualifiers.map fun (table, schema) => (table, .string schema))),
    ("wl_next", .object [("case_sensitive", .bool dialect.features.caseSensitive)]),
    ("casting", .bool dialect.casting),
    ("can_return_values", .bool dialect.returnsRows),
    ("escape_inserts", .bool dialect.quotesInsertColumns)]

end Dialect

end QuerySql
