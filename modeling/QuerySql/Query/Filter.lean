import QuerySql.Value

namespace QuerySql

inductive Filter where
  | value (value : Value)
  | list (items : List Filter)
  | object (entries : List (String × Filter))

abbrev Criteria := List (String × Filter)

inductive Shape where
  | null
  | scalar
  | array
  | object
  deriving DecidableEq

def Shape.text : Shape → String
  | .null => "null"
  | .scalar => "a scalar"
  | .array => "an array"
  | .object => "an object"

namespace Filter

def shape : Filter → Shape
  | .value .null => .null
  | .value _ => .scalar
  | .list _ => .array
  | .object _ => .object

def isObject : Filter → Bool
  | .object _ => true
  | _ => false

mutual

def ofJson : Json → Filter
  | .array items => .list (ofJsonItems items)
  | .object fields => .object (ofJsonFields fields)
  | .null => .value .null
  | .bool flag => .value (.bool flag)
  | .number kept => .value (Value.ofJson (.number kept))
  | .string text => .value (.string text)
termination_by structural json => json

def ofJsonItems : List Json → List Filter
  | [] => []
  | item :: rest => ofJson item :: ofJsonItems rest
termination_by structural items => items

def ofJsonFields : List (String × Json) → Criteria
  | [] => []
  | (key, json) :: rest => (key, ofJson json) :: ofJsonFields rest
termination_by structural fields => fields

end

mutual

def toJson : Filter → Json
  | .value scalar => scalar.toJson
  | .list items => .array (toJsonItems items)
  | .object entries => .object (Fields.collect (toJsonEntries entries))
termination_by structural filter => filter

def toJsonItems : List Filter → List Json
  | [] => []
  | item :: rest => item.toJson :: toJsonItems rest
termination_by structural items => items

def toJsonEntries : List (String × Filter) → List (String × Json)
  | [] => []
  | (key, filter) :: rest => (key, filter.toJson) :: toJsonEntries rest
termination_by structural entries => entries

end

theorem ofJsonItems_eq_map (items : List Json) : ofJsonItems items = items.map ofJson := by
  induction items with
  | nil => rfl
  | cons item rest ih => simp [ofJsonItems, ih]

theorem toJsonItems_eq_map (items : List Filter) : toJsonItems items = items.map toJson := by
  induction items with
  | nil => rfl
  | cons item rest ih => simp [toJsonItems, ih]

end Filter

def Criteria.toJson (criteria : Criteria) : Json :=
  (Filter.object criteria).toJson

end QuerySql
