import QuerySql.Error
import QuerySql.Json.Merge
import QuerySql.Json.Parser
import QuerySql.Settings.Environment
import QuerySql.Toml.Document

/-!
Settings from a document in JSON or TOML.  A document holds any part of the settings; what it leaves
out has its default.
-/

namespace QuerySql.Settings

def spellings : List (String × String) :=
  [("caseSensitive", "case_sensitive"), ("escapeCharacter", "escape_character"),
    ("schemaName", "schema_name"), ("wlNext", "wl_next"),
    ("canReturnValues", "can_return_values"), ("escapeInserts", "escape_inserts"),
    ("logLevel", "log_level")]

def canonicalName (name : String) : String :=
  (spellings.lookup name).getD name

mutual

def canonicalValue (name : String) : Json → Json
  | .object fields =>
      if name = "dialect" ∨ name = "wl_next" then
        .object (Fields.collect (canonicalFields fields))
      else .object fields
  | json => json
termination_by structural json => json

def canonicalFields : List (String × Json) → List (String × Json)
  | [] => []
  | (name, json) :: rest =>
      (canonicalName name, canonicalValue (canonicalName name) json) :: canonicalFields rest
termination_by structural fields => fields

end

def canonical : Json → Json
  | .object fields => .object (Fields.collect (canonicalFields fields))
  | json => json

def ofDocument? (json : Json) : Option Settings :=
  ofJson? (Json.merge (toJson {}) (canonical json))

def readDocument? (format : SettingsFormat) (text : String) : Option Json :=
  match format with
  | .json => Json.parse? text
  | .toml => (Toml.parse? text).map Toml.toJson

def ofText (format : SettingsFormat) (text : String) : Except Error Settings :=
  match readDocument? format text with
  | none => .error (.settings (.notParsed format))
  | some json =>
      match ofDocument? json with
      | some settings => .ok settings
      | none => .error (.settings (.notSettings format))

def ofFile (format : SettingsFormat) (path : String) (content : Option String) :
    Except Error Settings :=
  match content with
  | some text => ofText format text
  | none => .error (.settings (.notReadable format path))

end QuerySql.Settings
