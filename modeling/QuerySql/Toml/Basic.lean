import QuerySql.Calendar.Date
import QuerySql.Json.Basic

namespace QuerySql

namespace Toml

structure Clock where
  hour : Nat
  minute : Nat
  second : Nat
  nanosecond : Nat

inductive Offset where
  | zulu
  | minutes (east : Int)

structure Moment where
  date : Option Date := none
  clock : Option Clock := none
  offset : Option Offset := none

def Clock.text (clock : Clock) : String :=
  let digits := (Text.zeroPadded 9 (Text.decimal clock.nanosecond)).toList
  let fraction := (digits.reverse.dropWhile (· == '0')).reverse
  Calendar.twoDigits clock.hour ++ ":" ++ Calendar.twoDigits clock.minute ++ ":"
    ++ Calendar.twoDigits clock.second
    ++ if fraction.isEmpty then "" else "." ++ String.ofList fraction

def Offset.text : Offset → String
  | .zulu => "Z"
  | .minutes east =>
      (if east < 0 then "-" else "+") ++ Calendar.twoDigits (east.natAbs / 60) ++ ":"
        ++ Calendar.twoDigits (east.natAbs % 60)

def Moment.text (moment : Moment) : String :=
  (moment.date.map Date.text).getD ""
    ++ (if moment.date.isSome && moment.clock.isSome then "T" else "")
    ++ (moment.clock.map Clock.text).getD ""
    ++ (moment.offset.map Offset.text).getD ""

end Toml

inductive Toml where
  | string (value : String)
  | integer (value : Int64)
  | float (value : Float)
  | boolean (value : Bool)
  | moment (value : Toml.Moment)
  | array (items : List Toml)
  | table (entries : List (String × Toml))

namespace Toml

mutual

def toJson : Toml → Json
  | .string value => .string value
  | .integer value => .number (.signed value)
  | .float value => Json.ofFloat value
  | .boolean value => .bool value
  | .moment value => .string value.text
  | .array items => .array (toJsonItems items)
  | .table entries => .object (Fields.sorted (toJsonEntries entries))
termination_by structural toml => toml

def toJsonItems : List Toml → List Json
  | [] => []
  | item :: rest => item.toJson :: toJsonItems rest
termination_by structural items => items

def toJsonEntries : List (String × Toml) → List (String × Json)
  | [] => []
  | (key, value) :: rest => (key, value.toJson) :: toJsonEntries rest
termination_by structural entries => entries

end

end Toml

end QuerySql
