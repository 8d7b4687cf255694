import QuerySql.Statement.Conditions

/-!
The compiler of criteria with its state.  In one pass it walks the criteria, writes their predicates
and binds their values.  A failure does not undo what has been done to the state: what is changed for
a part of the pass only has to be restored on both ways out.
-/

namespace QuerySql

open Sql

structure Compiler where
  schema : Schema
  table : Table
  dialect : Dialect
  inner? : Option (String × Table) := none
  aliases : List (String × String) := []
  bindings : Bindings := {}

/-- Steps of the compiler.  They leave a state behind whether they return or fail. -/
abbrev Compile (α : Type) : Type :=
  ExceptT Error (StateM Compiler) α

def Compile.runFrom {α : Type} (steps : Compile α) (compiler : Compiler) :
    Except Error α × Compiler :=
  steps.run.run compiler

namespace Compiler

def of (schema : Schema) (dialect : Dialect) (name : String) : Except Error Compiler :=
  (schema.require name).map fun table => { schema, table, dialect }

def scope (compiler : Compiler) : Scope :=
  match compiler.inner? with
  | some (qualifier, table) =>
      { schema := compiler.schema, table, qualifier, aliases := compiler.aliases }
  | none => Scope.root compiler.schema compiler.table compiler.aliases

def bindValue (value : Value) : Compile String := do
  let compiler ← get
  if compiler.dialect.parameterized then
    let (placeholder, bindings) := compiler.bindings.bind value
    set { compiler with bindings }
    return placeholder
  else
    return literal value

def bindFolded (folded : Bool) (value : Value) : Compile String :=
  bindValue (if folded then value.lowercased else value)

def bindEach (folded : Bool) : List Value → Compile (List String)
  | [] => return []
  | value :: rest => do
      let operand ← bindFolded folded value
      let operands ← bindEach folded rest
      return operand :: operands

def bindPattern (kind : TextMatch) (text : String) : Compile String := do
  let compiler ← get
  if compiler.dialect.parameterized then
    bindValue (.string (kind.pattern text))
  else
    return kind.patternLiteral text

def column (key : String) (comparesText : Bool) : Compile (String × Bool) := do
  let compiler ← get
  let column := compiler.scope.column key
  let folded := column.isFolded compiler.dialect comparesText
  return (Fragment.text compiler.dialect (column.fragments folded), folded)

def null (key : String) (negated : Bool) : Compile String := do
  let (column, _) ← column key false
  return column ++ if negated then " IS NOT NULL" else " IS NULL"

def compare (key : String) (relation : Relation) (value : Value) : Compile String := do
  let (column, folded) ← column key value.isString
  let operand ← bindFolded folded value
  return column ++ " " ++ relation.sql ++ " " ++ operand

def equality (key : String) (value : Value) : Compile String :=
  if value.isNull then null key false else compare key .equal value

def membership (key : String) (negated : Bool) (items : List Filter) : Compile String := do
  let values ← MonadExcept.ofExcept (Scope.listValues key items)
  if values.isEmpty then
    return if negated then "1=1" else "1=0"
  else
    let (column, folded) ← column key (values.any Value.isString)
    let operands ← bindEach folded values
    return column ++ (if negated then " NOT IN (" else " IN (")
      ++ String.intercalate "," operands ++ ")"

def textMatch (key spelling : String) (kind : TextMatch) (value : Value) : Compile String :=
  if value.isNull then throw (.malformed (.nullPattern spelling key))
  else do
    let (column, folded) ← column key true
    let operand ← bindPattern kind (if folded then Text.lower value.text else value.text)
    let compiler ← get
    return column ++ " " ++ patternComparator folded compiler.dialect.foldsCase ++ " " ++ operand

def operation (key spelling : String) (operator : Operator) : Filter → Compile String
  | .value value =>
      match operator with
      | .textMatch kind => textMatch key spelling kind value
      | .not => if value.isNull then null key true else compare key .notEqual value
      | .compare comparison => compare key (.order comparison) value
  | .list items =>
      if operator = .not then membership key true items
      else throw (.malformed (.operandNotScalar spelling key .array))
  | .object _ => throw (.malformed (.operandNotScalar spelling key .object))

def operations (key : String) : Criteria → Compile (List String)
  | [] => return []
  | (spelling, operand) :: rest =>
      match Operator.ofKey? spelling with
      | none => throw (.unknownOperator spelling)
      | some operator => do
          let part ← operation key spelling operator operand
          let parts ← operations key rest
          return part :: parts

def patterns : Criteria → Compile (List String)
  | [] => return []
  | (key, .value value) :: rest => do
      let part ← textMatch key "like" .like value
      let parts ← patterns rest
      return part :: parts
  | (key, pattern) :: _ => throw (.malformed (.patternNotScalar key pattern.shape))

def every? (texts : List String) : Option String :=
  if texts.isEmpty then none else some (String.intercalate " AND " texts)

def parenthesized (text : String) : String :=
  "(" ++ text ++ ")"

def group? (connective : Connective) (texts : List String) : Option String :=
  if texts.isEmpty then none
  else some (parenthesized (String.intercalate connective.joiner texts))

/-- Steps whose columns belong to the related table.  Behind them, also if they fail, columns belong
where they did before. -/
def inside {α : Type} (qualifier : String) (related : Table) (steps : Compile α) : Compile α := do
  let previous ← get
  set { previous with inner? := some (qualifier, related) }
  let result ← ExceptT.lift steps.run
  modify fun compiler => { compiler with inner? := previous.inner? }
  MonadExcept.ofExcept result

/-- Takes back all but the first values, so that placeholders are numbered from the given one on. -/
def rollBack (count next : Nat) : Compile Unit :=
  modify fun compiler =>
    { compiler with bindings := { values := compiler.bindings.values.take count, next } }

mutual

def predicates : List (String × Filter) → Compile (List String)
  | [] => return []
  | (key, filter) :: rest => do
      let predicate ← expand key filter
      let others ← predicates rest
      return predicate.toList ++ others
termination_by structural entries => entries

def expand (key : String) : Filter → Compile (Option String)
  | .value value =>
      match CriteriaKey.ofText key with
      | .group connective =>
          throw (.malformed (.groupNotList connective (Filter.value value).shape))
      | .patterns => throw (.malformed (.patternsNotObject (Filter.value value).shape))
      | .column key => return some (← equality key value)
  | .list items =>
      match CriteriaKey.ofText key with
      | .group connective =>
          if items.isEmpty then throw (.malformed (.emptyGroup connective))
          else do
            let compiler ← get
            let parts ←
              elements connective compiler.bindings.values.length compiler.bindings.next items
            return parts.bind (group? connective)
      | .patterns => throw (.malformed (.patternsNotObject .array))
      | .column key => return some (← membership key false items)
  | .object entries =>
      match CriteriaKey.ofText key with
      | .group connective => throw (.malformed (.groupNotList connective .object))
      | .patterns => return every? (← patterns entries)
      | .column key => do
          let compiler ← get
          match ← MonadExcept.ofExcept (compiler.scope.associated key entries) with
          | some related =>
              return every?
                (← inside (compiler.scope.associationQualifier key) related (predicates entries))
          | none => return every? (← operations key entries)
termination_by structural filter => filter

/-- The elements of a group that constrain anything.  `none` stands for a disjunction with one that
does not, for which nothing stays bound that was not before the group. -/
def elements (connective : Connective) (count next : Nat) :
    List Filter → Compile (Option (List String))
  | [] => return some []
  | .object entries :: rest => do
      let texts ← predicates entries
      if texts.isEmpty then
        if connective = .disjunction then
          rollBack count next
          return none
        else
          elements connective count next rest
      else
        let parts ← elements connective count next rest
        return parts.map (parenthesized (String.intercalate " AND " texts) :: ·)
  | .value value :: _ =>
      throw (.malformed (.groupElement connective (Filter.value value).shape))
  | .list _ :: _ => throw (.malformed (.groupElement connective .array))
termination_by structural elements => elements

end

def conditions (query : Query) : Compile WrittenConditions := do
  let predicates ← predicates query.criteria
  let compiler ← get
  return {
    predicates
    tail := Fragment.text compiler.dialect (Tail.of compiler.table query).fragments
    values := compiler.bindings.values }

def compile (query : Query) : Compile WrittenConditions := do
  modify fun compiler =>
    { compiler with aliases := Conditions.joinAliases query.instructions }
  conditions query

end Compiler

end QuerySql
