import QuerySql.Dialect

namespace QuerySql

structure Settings where
  debug : Bool := true
  logLevel : String := "info"
  dialect : Dialect := {}
  deriving DecidableEq

namespace Settings

def fieldNames : Json.FieldNames :=
  [("debug", []), ("log_level", []), ("dialect", [])]

def ofJson? (json : Json) : Option Settings := do
  let fields ← Json.record? fieldNames json
  let debug ← Json.fieldOr fields "debug" true Json.bool?
  let logLevel ← Json.fieldOr fields "log_level" "info" Json.string?
  let dialect ← Json.fieldOr fields "dialect" {} Dialect.ofJson?
  return { debug, logLevel, dialect }

def toJson (settings : Settings) : Json :=
  .object [
    ("debug", .bool settings.debug),
    ("log_level", .string settings.logLevel),
    ("dialect", settings.dialect.toJson)]

end Settings

end QuerySql
