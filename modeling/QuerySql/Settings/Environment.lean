import QuerySql.Settings.Basic
import QuerySql.Text.Case

namespace QuerySql.Settings

abbrev Environment := String → Option String

/-- A switch is on for `true`, `1` and `yes`, in any case, and off for any other text. -/
def isOn (text : String) : Bool :=
  let word := Text.lower text
  word == "true" || word == "1" || word == "yes"

def flagOr (environment : Environment) (variableName : String) (default : Bool) : Bool :=
  match environment variableName with
  | some text => isOn text
  | none => default

def charOr (environment : Environment) (variableName : String) (default : Char) : Char :=
  match (environment variableName).map String.toList with
  | some [char] => char
  | _ => default

def withEnvironment (settings : Settings) (environment : Environment) : Settings where
  debug := flagOr environment "SEQUEL_DEBUG" settings.debug
  logLevel := (environment "SEQUEL_LOG_LEVEL").getD settings.logLevel
  dialect := {
    settings.dialect with
    parameterized :=
      flagOr environment "SEQUEL_PARAMETERIZED" settings.dialect.parameterized
    caseSensitive :=
      flagOr environment "SEQUEL_CASE_SENSITIVE" settings.dialect.caseSensitive
    quote := charOr environment "SEQUEL_ESCAPE_CHARACTER" settings.dialect.quote
    casting := flagOr environment "SEQUEL_CASTING" settings.dialect.casting }

def ofEnvironment (environment : Environment) : Settings :=
  withEnvironment {} environment

end QuerySql.Settings
