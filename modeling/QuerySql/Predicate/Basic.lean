import QuerySql.Sql.Fragment

namespace QuerySql

structure Column where
  ref : Sql.ColumnRef
  /-- The attribute's type compares without regard to case. -/
  foldsCase : Bool

inductive Relation where
  | equal
  | notEqual
  | order (comparison : Comparison)
  deriving DecidableEq

def Relation.sql : Relation → String
  | .equal => "="
  | .notEqual => "<>"
  | .order comparison => comparison.sql

/-- A condition without parts. -/
inductive Condition where
  | constant (holds : Bool)
  | null (column : Column) (negated : Bool)
  | compare (column : Column) (relation : Relation) (operand : Value)
  | member (column : Column) (negated : Bool) (operands : List Value)
  | textMatch (column : Column) (kind : TextMatch) (text : String)

inductive Predicate where
  | condition (condition : Condition)
  /-- Conditions that all hold, written without parentheses. -/
  | every (parts : List Predicate)
  /-- A group of conjunctions, each in parentheses of its own. -/
  | group (connective : Connective) (elements : List (List Predicate))

/-! SQL of conditions.  Case is folded on both sides, the column's in SQL and the operand's here,
when the column is compared with text. -/

open Sql

namespace Column

def isFolded (dialect : Dialect) (column : Column) (comparesText : Bool) : Bool :=
  comparesText && column.foldsCase && dialect.foldsCase

def fragments (column : Column) (folded : Bool) : List Fragment :=
  if folded then .fixed "LOWER(" :: column.ref.fragments ++ [.fixed ")"]
  else column.ref.fragments

end Column

def operandFragment (folded : Bool) (value : Value) : Fragment :=
  .operand (if folded then value.lowercased else value)

namespace Condition

def fragments (dialect : Dialect) : Condition → List Fragment
  | .constant holds => [.fixed (if holds then "1=1" else "1=0")]
  | .null column negated =>
      column.fragments false ++ [.fixed (if negated then " IS NOT NULL" else " IS NULL")]
  | .compare column relation operand =>
      let folded := column.isFolded dialect operand.isString
      column.fragments folded
        ++ [.fixed (" " ++ relation.sql ++ " "), operandFragment folded operand]
  | .member column negated operands =>
      let folded := column.isFolded dialect (operands.any Value.isString)
      column.fragments folded
        ++ .fixed (if negated then " NOT IN (" else " IN (")
        :: Fragment.separated "," (operands.map fun operand => [operandFragment folded operand])
        ++ [.fixed ")"]
  | .textMatch column kind text =>
      let folded := column.isFolded dialect true
      column.fragments folded
        ++ [.fixed (" " ++ patternComparator folded dialect.foldsCase ++ " "),
          .pattern kind (if folded then Text.lower text else text)]

end Condition

namespace Predicate

def parenthesized (fragments : List Fragment) : List Fragment :=
  .fixed "(" :: fragments ++ [.fixed ")"]

def conjunction (parts : List (List Fragment)) : List Fragment :=
  Fragment.separated " AND " parts

mutual

def fragments (dialect : Dialect) : Predicate → List Fragment
  | .condition single => single.fragments dialect
  | .every parts => conjunction (partsFragments dialect parts)
  | .group connective elements =>
      parenthesized (Fragment.separated connective.joiner (elementsFragments dialect elements))
termination_by structural predicate => predicate

def partsFragments (dialect : Dialect) : List Predicate → List (List Fragment)
  | [] => []
  | part :: rest => part.fragments dialect :: partsFragments dialect rest
termination_by structural parts => parts

def elementsFragments (dialect : Dialect) : List (List Predicate) → List (List Fragment)
  | [] => []
  | element :: rest =>
      parenthesized (conjunction (partsFragments dialect element))
        :: elementsFragments dialect rest
termination_by structural elements => elements

end

theorem partsFragments_eq_map (dialect : Dialect) (parts : List Predicate) :
    partsFragments dialect parts = parts.map (fragments dialect) := by
  induction parts with
  | nil => rfl
  | cons part rest ih => rw [partsFragments, ih, List.map_cons]

theorem elementsFragments_eq_map (dialect : Dialect) (elements : List (List Predicate)) :
    elementsFragments dialect elements =
      elements.map fun element =>
        parenthesized (conjunction (element.map (fragments dialect))) := by
  induction elements with
  | nil => rfl
  | cons element rest ih => rw [elementsFragments, ih, partsFragments_eq_map, List.map_cons]

end Predicate

end QuerySql
