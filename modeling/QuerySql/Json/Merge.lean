import QuerySql.Json.Basic

namespace QuerySql

namespace Fields

variable {α : Type}

/-- Takes the field of a name out.  The last field comes to stand in its place. -/
def swapRemove (fields : Fields α) (name : String) : Fields α :=
  match fields with
  | [] => []
  | (other, value) :: rest =>
      if other = name then rest.getLast?.toList ++ rest.dropLast
      else (other, value) :: swapRemove rest name

def replace (fields : Fields α) (name : String) (value : α) : Fields α :=
  (fields.swapRemove name).put name value

end Fields

namespace Json

mutual

/-- Objects are merged field by field; anything else replaces what it is laid over. -/
def merge (base : Json) : Json → Json
  | .object upper =>
      match base with
      | .object fields => .object (mergeFields fields upper)
      | _ => .object upper
  | upper => upper
termination_by structural upper => upper

def mergeFields (fields : Fields Json) : List (String × Json) → Fields Json
  | [] => fields
  | (name, upper) :: rest =>
      let merged :=
        match fields.get? name with
        | some value => merge value upper
        | none => upper
      mergeFields (fields.replace name merged) rest
termination_by structural upper => upper

end

end Json

end QuerySql
