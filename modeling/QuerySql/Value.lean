import QuerySql.Calendar.Time
import QuerySql.Json.Printer
import QuerySql.Text.Case
import QuerySql.Uuid

namespace QuerySql

inductive Value where
  | null
  | bool (value : Bool)
  | int (value : Int64)
  | uint (value : UInt64)
  | float (value : Float)
  | string (value : String)
  | bytes (content : List UInt8)
  | date (value : Date)
  | timestamp (value : Timestamp)
  | instant (value : Timestamp)
  | time (value : TimeOfDay)
  | uuid (value : Uuid)
  | document (value : Json)
  | list (items : List Value)

namespace Value

def isNull : Value → Bool
  | .null => true
  | _ => false

def isString : Value → Bool
  | .string _ => true
  | _ => false

def string? : Value → Option String
  | .string text => some text
  | _ => none

def int? : Value → Option Int
  | .int value => some value.toInt
  | _ => none

def ofUInt64 (value : UInt64) : Value :=
  if value.toNat < 0x8000000000000000 then .int value.toInt64 else .uint value

/-- Scalars become the value of their kind; arrays and objects stay documents. -/
def ofJson : Json → Value
  | .null => .null
  | .bool value => .bool value
  | .number (.signed value) => .int value
  | .number (.unsigned value _) => .uint value
  | .number (.float value _) => .float value
  | .string value => .string value
  | .array items => .document (.array items)
  | .object fields => .document (.object fields)

def lowercased : Value → Value
  | .string text => .string (Text.lower text)
  | value => value

def bytesText (content : List UInt8) : String :=
  "\\x" ++ String.join (content.map fun byte => Text.hex 2 byte.toNat)

mutual

def toJson : Value → Json
  | .null => .null
  | .bool value => .bool value
  | .int value => .number (.signed value)
  | .uint value => .number (Json.Number.ofUInt64 value)
  | .float value => Json.ofFloat value
  | .string value => .string value
  | .bytes content => .string (bytesText content)
  | .date value => .string value.text
  | .timestamp value => .string value.clockText
  | .instant value => .string value.clockText
  | .time value => .string value.clockText
  | .uuid value => .string value.text
  | .document value => value
  | .list items => .array (toJsonItems items)
termination_by structural value => value

def toJsonItems : List Value → List Json
  | [] => []
  | item :: rest => item.toJson :: toJsonItems rest
termination_by structural items => items

end

/-- The form that is bound: dates and times without fractions, bytes in base sixteen, documents and
lists as JSON text. -/
def normalized : Value → Value
  | .bytes content => .string (bytesText content)
  | .date value => .string value.text
  | .timestamp value => .string value.clockText
  | .instant value => .string value.clockText
  | .time value => .string value.clockText
  | .uuid value => .string value.text
  | .document value => .string value.render
  | .list items => .string (Json.array (toJsonItems items)).render
  | .null => .null
  | .bool value => .bool value
  | .int value => .int value
  | .uint value => .uint value
  | .float value => .float value
  | .string value => .string value

mutual

/-- The value as a reader sees it; this is also the text that a pattern operator matches. -/
def text : Value → String
  | .null => "NULL"
  | .bool value => if value then "true" else "false"
  | .int value => Text.signedDecimal value.toInt
  | .uint value => Text.decimal value.toNat
  | .float value => Decimal.plain value
  | .string value => value
  | .bytes content => "<" ++ Text.decimal content.length ++ " bytes>"
  | .date value => value.text
  | .timestamp value => value.text
  | .instant value => value.text ++ " UTC"
  | .time value => value.text
  | .uuid value => value.text
  | .document value => value.render
  | .list items => "[" ++ String.intercalate ", " (textItems items) ++ "]"
termination_by structural value => value

def textItems : List Value → List String
  | [] => []
  | item :: rest => item.text :: textItems rest
termination_by structural items => items

end

mutual

/-- The value in an exchange document, where bytes are numbers and timestamps keep fractions. -/
def serialized : Value → Json
  | .null => .null
  | .bool value => .bool value
  | .int value => .number (.signed value)
  | .uint value => .number (Json.Number.ofUInt64 value)
  | .float value => Json.ofFloat value
  | .string value => .string value
  | .bytes content => .array (content.map fun byte => Json.ofNat byte.toNat)
  | .date value => .string value.text
  | .timestamp value => .string value.isoText
  | .instant value => .string (value.isoText ++ "Z")
  | .time value => .string value.text
  | .uuid value => .string value.text
  | .document value => value
  | .list items => .array (serializedItems items)
termination_by structural value => value

def serializedItems : List Value → List Json
  | [] => []
  | item :: rest => item.serialized :: serializedItems rest
termination_by structural items => items

end

end Value

end QuerySql
