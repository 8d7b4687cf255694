import QuerySql.Json.Number

namespace QuerySql

inductive Json where
  | null
  | bool (value : Bool)
  | number (value : Json.Number)
  | string (value : String)
  | array (items : List Json)
  | object (fields : List (String × Json))
  deriving Inhabited

namespace Json

/-- A double; one that is not finite has no number and is null. -/
def ofFloat (value : Float) : Json :=
  match Number.ofFloat? value with
  | some kept => .number kept
  | none => .null

def ofNat (value : Nat) : Json :=
  match Number.ofInt? value with
  | some kept => .number kept
  | none => ofFloat value.toFloat

def ofStrings (values : List String) : Json :=
  .array (values.map .string)

end Json

abbrev Fields (α : Type) := List (String × α)

namespace Fields

variable {α : Type}

def get? (fields : Fields α) (name : String) : Option α :=
  fields.lookup name

def names (fields : Fields α) : List String :=
  fields.map Prod.fst

/-- Replaces the value in the place where the name first stood, or adds the field at the end. -/
def put (fields : Fields α) (name : String) (value : α) : Fields α :=
  match fields with
  | [] => [(name, value)]
  | (other, old) :: rest =>
      if other = name then (name, value) :: rest else (other, old) :: put rest name value

def erase (fields : Fields α) (name : String) : Fields α :=
  fields.filter fun field => field.1 != name

def putSorted (fields : Fields α) (name : String) (value : α) : Fields α :=
  match fields with
  | [] => [(name, value)]
  | (other, old) :: rest =>
      if other = name then (name, value) :: rest
      else if name < other then (name, value) :: (other, old) :: rest
      else (other, old) :: putSorted rest name value

/-- Fields in the order of their names; of several values under one name the last is kept. -/
def sorted (fields : Fields α) : Fields α :=
  fields.foldl (fun map field => map.putSorted field.1 field.2) []

/-- Fields as one map: of several values under one name the last is kept, in the first one's
place. -/
def collect (fields : Fields α) : Fields α :=
  fields.foldl (fun map field => map.put field.1 field.2) []

theorem get?_put (fields : Fields α) (name other : String) (value : α) :
    (fields.put name value).get? other =
      if other = name then some value else fields.get? other := by
  induction fields with
  | nil =>
      by_cases h : other = name
      · simp [get?, put, h]
      · simp [get?, put, List.lookup_cons, h, beq_eq_false_iff_ne.mpr h]
  | cons field rest ih =>
      obtain ⟨key, old⟩ := field
      simp only [get?] at ih ⊢
      by_cases hkey : key = name
      · subst hkey
        by_cases h : other = key <;>
          simp [put, List.lookup_cons, h, beq_eq_false_iff_ne.mpr]
      · by_cases h : other = key
        · subst h
          simp [put, hkey]
        · simp [put, List.lookup_cons, hkey, beq_eq_false_iff_ne.mpr h, ih]

end Fields

end QuerySql
