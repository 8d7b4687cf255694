import QuerySql.Schema.Table
import QuerySql.Sql.Identifier
import QuerySql.Sql.Literal

/-!
SQL text in pieces.  A statement is a list of fragments that keeps apart what the language, the
schema and the caller contribute; emitting it under a dialect writes the text and gathers the
values of its placeholders.
-/

namespace QuerySql.Sql

inductive Fragment where
  | fixed (text : String)
  | quoted (name : String)
  /-- Text of the caller that is copied as it stands. -/
  | verbatim (text : String)
  | operand (value : Value)
  | pattern (kind : TextMatch) (text : String)
  | parentKey

/-- What stands for the parent's key until it is known. -/
def parentKeyMarker : String := "^?^"

structure Bindings where
  values : List Value := []
  next : Nat := 1

namespace Bindings

def placeholder (number : Nat) : String :=
  "$" ++ Text.decimal number

def bind (bindings : Bindings) (value : Value) : String × Bindings :=
  (placeholder bindings.next,
    { values := bindings.values ++ [value.normalized], next := bindings.next + 1 })

end Bindings

namespace Fragment

def emit (dialect : Dialect) (bindings : Bindings) : Fragment → String × Bindings
  | .fixed text => (text, bindings)
  | .quoted name => (identifier dialect.quote name, bindings)
  | .verbatim text => (text, bindings)
  | .operand value =>
      if dialect.parameterized then bindings.bind value else (literal value, bindings)
  | .pattern kind text =>
      if dialect.parameterized then bindings.bind (.string (kind.pattern text))
      else (kind.patternLiteral text, bindings)
  | .parentKey => (parentKeyMarker, bindings)

def emitAll (dialect : Dialect) (bindings : Bindings) : List Fragment → String × Bindings
  | [] => ("", bindings)
  | fragment :: rest =>
      let (text, bindings) := fragment.emit dialect bindings
      let (following, bindings) := emitAll dialect bindings rest
      (text ++ following, bindings)

@[simp] theorem emitAll_nil (dialect : Dialect) (bindings : Bindings) :
    emitAll dialect bindings [] = ("", bindings) := rfl

theorem emitAll_cons (dialect : Dialect) (bindings : Bindings) (fragment : Fragment)
    (rest : List Fragment) :
    emitAll dialect bindings (fragment :: rest) =
      ((fragment.emit dialect bindings).1
          ++ (emitAll dialect (fragment.emit dialect bindings).2 rest).1,
        (emitAll dialect (fragment.emit dialect bindings).2 rest).2) := rfl

theorem emitAll_append (dialect : Dialect) (bindings : Bindings) (front back : List Fragment) :
    emitAll dialect bindings (front ++ back) =
      ((emitAll dialect bindings front).1
          ++ (emitAll dialect (emitAll dialect bindings front).2 back).1,
        (emitAll dialect (emitAll dialect bindings front).2 back).2) := by
  induction front generalizing bindings with
  | nil => simp
  | cons fragment rest ih => simp [emitAll_cons, ih, String.append_assoc]

/-- The text of fragments of which none is bound. -/
def text (dialect : Dialect) (fragments : List Fragment) : String :=
  (emitAll dialect {} fragments).1

def separated (separator : String) : List (List Fragment) → List Fragment
  | [] => []
  | [part] => part
  | part :: next :: rest => part ++ .fixed separator :: separated separator (next :: rest)

end Fragment

structure ColumnRef where
  qualifier : String
  column : String
  deriving DecidableEq

def ColumnRef.fragments (ref : ColumnRef) : List Fragment :=
  [.quoted ref.qualifier, .fixed ".", .quoted ref.column]

def tableFragments (dialect : Dialect) (table : String) : List Fragment :=
  match dialect.qualifiers.lookup table with
  | some schema => [.quoted schema, .fixed ".", .quoted table]
  | none => [.quoted table]

def aliasedTable (dialect : Dialect) (table qualifier : String) : List Fragment :=
  tableFragments dialect table ++ [.fixed " AS ", .quoted qualifier]

end QuerySql.Sql

namespace QuerySql

def Table.columnRef (table : Table) (key : String) : Sql.ColumnRef :=
  ⟨table.name, table.column key⟩

end QuerySql
