import QuerySql.Json.Basic

namespace QuerySql.Json

def bool? : Json → Option Bool
  | .bool value => some value
  | _ => none

def string? : Json → Option String
  | .string value => some value
  | _ => none

def char? : Json → Option Char
  | .string value =>
      match value.toList with
      | [char] => some char
      | _ => none
  | _ => none

def uint64? : Json → Option UInt64
  | .number value => value.toUInt64?
  | _ => none

def nullable? {α : Type} (read : Json → Option α) : Json → Option (Option α)
  | .null => some none
  | json => (read json).map some

def listOf? {α : Type} (read : Json → Option α) : Json → Option (List α)
  | .array items => items.mapM read
  | _ => none

def strings? : Json → Option (List String) :=
  listOf? string?

/-- The names of a record's fields in order, each with its other spellings. -/
abbrev FieldNames := List (String × List String)

namespace FieldNames

def resolve? (names : FieldNames) (spelling : String) : Option String :=
  (names.find? fun name => name.1 == spelling || name.2.contains spelling).map Prod.fst

def rename? (names : FieldNames) : List (String × Json) → Option (Fields Json)
  | [] => some []
  | (spelling, value) :: rest =>
      (names.rename? rest).bind fun fields =>
        match names.resolve? spelling with
        | none => some fields
        | some name => if fields.names.contains name then none else some ((name, value) :: fields)

end FieldNames

def record? (names : FieldNames) : Json → Option (Fields Json)
  | .object fields => names.rename? fields
  | .array items =>
      if items.length ≤ names.length then some ((names.map Prod.fst).zip items) else none
  | _ => none

def fieldOr {α : Type} (fields : Fields Json) (name : String) (default : α)
    (read : Json → Option α) : Option α :=
  match fields.get? name with
  | none => some default
  | some json => read json

end QuerySql.Json
