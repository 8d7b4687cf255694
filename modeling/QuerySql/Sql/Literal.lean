import QuerySql.Dialect
import QuerySql.Query.Operator
import QuerySql.Value

namespace QuerySql.Sql

/-- Escapes a character of a literal with a backslash.  In a pattern the wildcards are escaped as
well. -/
def escapeLiteralChar (inPattern : Bool) (char : Char) : List Char :=
  if char = Char.ofNat 0x00 then ['\\', '0']
  else if char = '\n' then ['\\', 'n']
  else if char = '\r' then ['\\', 'r']
  else if char = Char.ofNat 0x08 then ['\\', 'b']
  else if char = '\t' then ['\\', 't']
  else if char = Char.ofNat 0x1A then ['\\', 'Z']
  else if char = '\\' || char = '\'' || char = '"' then ['\\', char]
  else if inPattern && (char = '%' || char = '_') then ['\\', char]
  else [char]

def escapeLiteral (inPattern : Bool) (text : String) : String :=
  String.ofList (text.toList.flatMap (escapeLiteralChar inPattern))

def escapePatternChar (char : Char) : List Char :=
  if char = '\\' || char = '%' || char = '_' then ['\\', char] else [char]

def escapePattern (text : String) : String :=
  String.ofList (text.toList.flatMap escapePatternChar)

def doubleQuoted (escaped : String) : String :=
  "\"" ++ escaped ++ "\""

def singleQuoted (text : String) : String :=
  "'" ++ String.ofList (text.toList.flatMap fun char => if char = '\'' then [char, char] else [char])
    ++ "'"

def literal (value : Value) : String :=
  match value.normalized with
  | .string text => doubleQuoted (escapeLiteral false text)
  | scalar => scalar.text

/-- A literal that is not taken for an identifier.  Where double quotes surround identifiers, text
stands in single quotes. -/
def dialectLiteral (dialect : Dialect) (value : Value) : String :=
  if dialect.quote ≠ '"' then literal value
  else
    match value.normalized with
    | .string text => singleQuoted text
    | _ => literal value

end QuerySql.Sql

namespace QuerySql.TextMatch

def pattern (kind : TextMatch) (text : String) : String :=
  kind.before ++ (if kind.isLiteral then Sql.escapePattern text else text) ++ kind.after

def patternLiteral (kind : TextMatch) (text : String) : String :=
  Sql.doubleQuoted (kind.before ++ Sql.escapeLiteral kind.isLiteral text ++ kind.after)

end QuerySql.TextMatch
