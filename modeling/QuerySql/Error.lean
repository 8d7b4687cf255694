import QuerySql.Query.Filter
import QuerySql.Query.Operator

namespace QuerySql

inductive Calculation where
  | sum
  | average
  | min
  | max
  deriving DecidableEq

def Calculation.key : Calculation → String
  | .sum => "sum"
  | .average => "average"
  | .min => "min"
  | .max => "max"

inductive Malformation where
  | groupNotList (group : Connective) (found : Shape)
  | emptyGroup (group : Connective)
  | groupElement (group : Connective) (found : Shape)
  | patternsNotObject (found : Shape)
  | patternNotScalar (key : String) (found : Shape)
  | operatorBesideAttributes (association operator : String)
  | listEntry (key : String) (found : Shape)
  | operandNotScalar (operator key : String) (found : Shape)
  | nullPattern (operator key : String)
  | noStages (key : String)
  | tooFewStages (key : String) (found : Nat)
  | emptyRecord (table : String)
  | recordNotObject (table : String)
  | other (text : String)
  deriving DecidableEq

def Malformation.text : Malformation → String
  | .groupNotList group found =>
      s!"`{group.keyword}` statements must be in an array, got {found.text}"
  | .emptyGroup group => s!"`{group.keyword}` statements must not be empty"
  | .groupElement group found =>
      s!"each `{group.keyword}` element must be an object, got {found.text}"
  | .patternsNotObject found => s!"`like` must map attributes to patterns, got {found.text}"
  | .patternNotScalar key found =>
      s!"`like` pattern for `{key}` must be a scalar, got {found.text}"
  | .operatorBesideAttributes association operator =>
      s!"filter on association `{association}` mixes the operator `{operator}` with attribute keys"
  | .listEntry key found =>
      s!"`{key}` list entries must be scalars, got {found.text}"
  | .operandNotScalar operator key found =>
      s!"operator `{operator}` on `{key}` expects a scalar, got {found.text}"
  | .nullPattern operator key =>
      s!"operator `{operator}` on `{key}` needs a non-null pattern"
  | .noStages key => s!"population of `{key}` has no instructions"
  | .tooFewStages key found =>
      s!"junction population of `{key}` needs two instruction stages, got {Text.decimal found}"
  | .emptyRecord table => s!"nothing to insert into `{table}`"
  | .recordNotObject table => s!"records inserted into `{table}` must be objects"
  | .other text => text

inductive SettingsFormat where
  | json
  | toml
  deriving DecidableEq

def SettingsFormat.name : SettingsFormat → String
  | .json => "JSON"
  | .toml => "TOML"

inductive SettingsFault where
  | notParsed (format : SettingsFormat)
  | notSettings (format : SettingsFormat)
  | notReadable (format : SettingsFormat) (path : String)
  | other (text : String)
  deriving DecidableEq

def SettingsFault.text : SettingsFault → String
  | .notParsed format => s!"Failed to parse {format.name}"
  | .notSettings format => s!"Failed to deserialize settings from {format.name}"
  | .notReadable format path => s!"Failed to read {format.name} file '" ++ path ++ "'"
  | .other text => text

inductive Error where
  | unknownTable (name : String)
  | misuse (text : String)
  | malformed (fault : Malformation)
  | unknownOperator (key : String)
  | missingCalculation
  | missingGroupBy (calculation : Calculation)
  | settings (fault : SettingsFault)
  | invalidSchema
  | serialization (text : String)
  | io (text : String)
  deriving DecidableEq

namespace Error

inductive Kind where
  | construction
  | malformedCriteria
  | unknownOperator
  | missingCalculation
  | missingGroupBy
  | configuration
  | serialization
  | io
  deriving DecidableEq

def kind : Error → Kind
  | .unknownTable _ | .misuse _ => .construction
  | .malformed _ => .malformedCriteria
  | .unknownOperator _ => .unknownOperator
  | .missingCalculation => .missingCalculation
  | .missingGroupBy _ => .missingGroupBy
  | .settings _ => .configuration
  | .invalidSchema | .serialization _ => .serialization
  | .io _ => .io

def message : Error → String
  | .unknownTable name =>
      s!"Incorrect usage of the criteria compiler: table `{name}` is not defined in the schema"
  | .misuse text => s!"Incorrect usage of the criteria compiler: {text}"
  | .malformed fault => s!"Malformed criteria: {fault.text}"
  | .unknownOperator key =>
      s!"Unknown filtering operator: \"{key}\"."
        ++ " Should be 'startsWith', '>', 'contains' or similar"
  | .missingCalculation =>
      "Cannot groupBy without a calculation: expected one of sum, average, min or max"
  | .missingGroupBy calculation =>
      s!"Cannot use the `{calculation.key}` calculation without a groupBy"
  | .settings fault => s!"Configuration error: {fault.text}"
  | .invalidSchema => "Serialization error: Invalid schema"
  | .serialization text => s!"Serialization error: {text}"
  | .io text => s!"IO error: {text}"

def operator? : Error → Option String
  | .unknownOperator key => some key
  | _ => none

def isQueryFault (error : Error) : Bool :=
  match error.kind with
  | .configuration | .serialization | .io => false
  | _ => true

end Error

end QuerySql
