import QuerySql.Predicate.Basic
import QuerySql.Schema.Basic

/-!
Criteria expanded into predicates.  A key that constrains nothing expands into no predicate: an
empty map of operators or patterns, an association filter without keys, a conjunction whose elements
constrain nothing, and a disjunction with such an element.
-/

namespace QuerySql

structure Scope where
  schema : Schema
  table : Table
  qualifier : String
  aliases : List (String × String) := []

namespace Scope

def root (schema : Schema) (table : Table) (aliases : List (String × String)) : Scope :=
  { schema, table, qualifier := table.name, aliases }

def column (scope : Scope) (key : String) : Column :=
  match scope.table.resolve? key with
  | some (name, attr) => ⟨⟨scope.qualifier, attr.column name⟩, attr.foldsCase⟩
  | none => ⟨⟨scope.qualifier, key⟩, false⟩

@[simp] theorem column_qualifier (scope : Scope) (key : String) :
    (scope.column key).ref.qualifier = scope.qualifier := by
  unfold column
  split <;> rfl

/-- The alias of an association's table: the one it is joined under, or else its own name. -/
def associationQualifier (scope : Scope) (key : String) : String :=
  "__" ++ (scope.aliases.lookup key).getD key

def enter (scope : Scope) (key : String) (related : Table) : Scope :=
  { scope with table := related, qualifier := scope.associationQualifier key }

def equality (scope : Scope) (key : String) (value : Value) : Predicate :=
  if value.isNull then .condition (.null (scope.column key) false)
  else .condition (.compare (scope.column key) .equal value)

def listValues (key : String) : List Filter → Except Error (List Value)
  | [] => .ok []
  | .value value :: rest => (listValues key rest).map (value :: ·)
  | item :: _ => .error (.malformed (.listEntry key item.shape))

def membership (scope : Scope) (key : String) (negated : Bool) (items : List Filter) :
    Except Error Predicate :=
  (listValues key items).map fun values =>
    if values.isEmpty then .condition (.constant negated)
    else .condition (.member (scope.column key) negated values)

def textMatch (scope : Scope) (key operator : String) (kind : TextMatch) (value : Value) :
    Except Error Predicate :=
  if value.isNull then .error (.malformed (.nullPattern operator key))
  else .ok (.condition (.textMatch (scope.column key) kind value.text))

def operation (scope : Scope) (key spelling : String) (operator : Operator) :
    Filter → Except Error Predicate
  | .value value =>
      match operator with
      | .textMatch kind => scope.textMatch key spelling kind value
      | .not =>
          if value.isNull then .ok (.condition (.null (scope.column key) true))
          else .ok (.condition (.compare (scope.column key) .notEqual value))
      | .compare comparison =>
          .ok (.condition (.compare (scope.column key) (.order comparison) value))
  | .list items =>
      if operator = .not then scope.membership key true items
      else .error (.malformed (.operandNotScalar spelling key .array))
  | .object _ => .error (.malformed (.operandNotScalar spelling key .object))

def operations (scope : Scope) (key : String) : Criteria → Except Error (List Predicate)
  | [] => .ok []
  | (spelling, operand) :: rest =>
      match Operator.ofKey? spelling with
      | none => .error (.unknownOperator spelling)
      | some operator =>
          (scope.operation key spelling operator operand).bind fun predicate =>
            (scope.operations key rest).map (predicate :: ·)

def patterns (scope : Scope) : Criteria → Except Error (List Predicate)
  | [] => .ok []
  | (key, .value value) :: rest =>
      (scope.textMatch key "like" .like value).bind fun predicate =>
        (scope.patterns rest).map (predicate :: ·)
  | (key, pattern) :: _ => .error (.malformed (.patternNotScalar key pattern.shape))

def every? (parts : List Predicate) : Option Predicate :=
  if parts.isEmpty then none else some (.every parts)

/-- The table that an object under a key filters, where the key is an association to one row and
the object is no map of operators.  An operator with an operand of its own does not stand beside
keys of the table. -/
def associated (scope : Scope) (key : String) (entries : Criteria) :
    Except Error (Option Table) :=
  if entries.all fun entry => Operator.isKey entry.1 then .ok none
  else
    match (scope.table.resolve? key).bind fun entry => entry.2.relatedTable? with
    | none => .ok none
    | some target =>
        match entries.find? fun entry => Operator.isKey entry.1 && !entry.2.isObject with
        | some (operator, _) => .error (.malformed (.operatorBesideAttributes key operator))
        | none => (scope.schema.require target).map some

mutual

def expandAll (scope : Scope) : List (String × Filter) → Except Error (List Predicate)
  | [] => .ok []
  | (key, filter) :: rest =>
      (expand scope key filter).bind fun predicate =>
        (expandAll scope rest).map (predicate.toList ++ ·)
termination_by structural entries => entries

/-- The predicate of one key, or `none` if it constrains nothing. -/
def expand (scope : Scope) (key : String) : Filter → Except Error (Option Predicate)
  | .value value =>
      match CriteriaKey.ofText key with
      | .group connective =>
          .error (.malformed (.groupNotList connective (Filter.value value).shape))
      | .patterns => .error (.malformed (.patternsNotObject (Filter.value value).shape))
      | .column key => .ok (some (scope.equality key value))
  | .list items =>
      match CriteriaKey.ofText key with
      | .group connective =>
          if items.isEmpty then .error (.malformed (.emptyGroup connective))
          else
            (expandElements scope connective items).map fun elements =>
              elements.bind fun elements =>
                if elements.isEmpty then none else some (.group connective elements)
      | .patterns => .error (.malformed (.patternsNotObject .array))
      | .column key => (scope.membership key false items).map some
  | .object entries =>
      match CriteriaKey.ofText key with
      | .group connective => .error (.malformed (.groupNotList connective .object))
      | .patterns => (scope.patterns entries).map every?
      | .column key =>
          (scope.associated key entries).bind fun related =>
            match related with
            | some table => (expandAll (scope.enter key table) entries).map every?
            | none => (scope.operations key entries).map every?
termination_by structural filter => filter

/-- The elements of a group that constrain anything.  `none` stands for a disjunction with one that
does not; the elements after it are not looked at. -/
def expandElements (scope : Scope) (connective : Connective) :
    List Filter → Except Error (Option (List (List Predicate)))
  | [] => .ok (some [])
  | .object entries :: rest =>
      (expandAll scope entries).bind fun predicates =>
        if predicates.isEmpty then
          if connective = .disjunction then .ok none else expandElements scope connective rest
        else
          (expandElements scope connective rest).map fun elements =>
            elements.map (predicates :: ·)
  | .value value :: _ =>
      .error (.malformed (.groupElement connective (Filter.value value).shape))
  | .list _ :: _ => .error (.malformed (.groupElement connective .array))
termination_by structural elements => elements

end

end Scope

end QuerySql
