import QuerySql.Text.Case

namespace QuerySql

inductive Connective where
  | conjunction
  | disjunction
  deriving DecidableEq

namespace Connective

def keyword : Connective → String
  | .conjunction => "and"
  | .disjunction => "or"

def joiner : Connective → String
  | .conjunction => " AND "
  | .disjunction => " OR "

end Connective

inductive CriteriaKey where
  | group (connective : Connective)
  | patterns
  | column (key : String)
  deriving DecidableEq

/-- The reserved words are matched without regard to case; every other key names a column
or an attribute that has one. -/
def CriteriaKey.ofText (key : String) : CriteriaKey :=
  if Text.equalsIgnoringCase key "or" then .group .disjunction
  else if Text.equalsIgnoringCase key "and" then .group .conjunction
  else if Text.equalsIgnoringCase key "like" then .patterns
  else .column key

inductive Comparison where
  | less
  | atMost
  | greater
  | atLeast
  deriving DecidableEq

def Comparison.sql : Comparison → String
  | .less => "<"
  | .atMost => "<="
  | .greater => ">"
  | .atLeast => ">="

/-- The ways to match text: with wildcards of the caller's own, or a text taken literally. -/
inductive TextMatch where
  | like
  | contains
  | startsWith
  | endsWith
  deriving DecidableEq

namespace TextMatch

def before : TextMatch → String
  | .contains | .endsWith => "%"
  | .like | .startsWith => ""

def after : TextMatch → String
  | .contains | .startsWith => "%"
  | .like | .endsWith => ""

def isLiteral : TextMatch → Bool
  | .like => false
  | _ => true

end TextMatch

inductive Operator where
  | compare (comparison : Comparison)
  | not
  | textMatch (kind : TextMatch)
  deriving DecidableEq

def Operator.ofKey? (key : String) : Option Operator :=
  if key = "<" ∨ key = "lessThan" then some (.compare .less)
  else if key = "<=" ∨ key = "lessThanOrEqual" then some (.compare .atMost)
  else if key = ">" ∨ key = "greaterThan" then some (.compare .greater)
  else if key = ">=" ∨ key = "greaterThanOrEqual" then some (.compare .atLeast)
  else if key = "!" ∨ key = "not" then some .not
  else if key = "like" then some (.textMatch .like)
  else if key = "contains" then some (.textMatch .contains)
  else if key = "startsWith" then some (.textMatch .startsWith)
  else if key = "endsWith" then some (.textMatch .endsWith)
  else none

def Operator.isKey (key : String) : Bool :=
  (Operator.ofKey? key).isSome

/-- The comparator of a pattern.  Where case is to be ignored and the column is not already folded,
the comparator ignores it. -/
def patternComparator (folded foldsCase : Bool) : String :=
  if !folded && foldsCase then "ILIKE" else "LIKE"

end QuerySql
