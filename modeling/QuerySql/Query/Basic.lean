import QuerySql.Query.Filter

namespace QuerySql

inductive SortDirection where
  | ascending
  | descending
  deriving DecidableEq

def SortDirection.sql : SortDirection → String
  | .ascending => "ASC"
  | .descending => "DESC"

/-- Which side of an association holds the key to the other. -/
inductive JoinStrategy where
  | parentHoldsKey
  | childHoldsKey
  | junction
  deriving DecidableEq

def JoinStrategy.number : JoinStrategy → UInt64
  | .parentHoldsKey => 1
  | .childHoldsKey => 2
  | .junction => 3

structure Strategy where
  join : JoinStrategy
  hints : Option Json := none

mutual

structure Query where
  filter : Option Criteria := none
  select : Option (List String) := none
  sort : List (String × SortDirection) := []
  limit : Option UInt64 := none
  skip : Option UInt64 := none
  groupBy : Option (List String) := none
  sum : Option (List String) := none
  average : Option (List String) := none
  min : Option (List String) := none
  max : Option (List String) := none
  instructions : List (String × Instruction) := []
  /-- Criteria among the fields of the query object itself. -/
  loose : Criteria := []

structure Instruction where
  strategy : Strategy
  stages : List Stage

structure Stage where
  parent : String
  parentKey : String
  child : String
  childKey : String
  association : String := ""
  select : Option (List String) := none
  criteria : Option Query := none

end

def Instruction.join (instruction : Instruction) : JoinStrategy :=
  instruction.strategy.join

def Instruction.of (join : JoinStrategy) (stages : List Stage) : Instruction :=
  { strategy := { join }, stages }

namespace Query

/-- The criteria in force: those under a key of their own, or else the loose ones. -/
def criteria (query : Query) : Criteria :=
  query.filter.getD query.loose

def isAggregate (query : Query) : Bool :=
  query.groupBy.isSome || query.sum.isSome || query.average.isSome || query.min.isSome
    || query.max.isSome

def withFilter (query : Query) (criteria : Criteria) : Query :=
  { query with filter := some criteria }

def withSelect (query : Query) (columns : List String) : Query :=
  { query with select := some columns }

def sortedBy (query : Query) (key : String) (direction : SortDirection) : Query :=
  { query with sort := query.sort ++ [(key, direction)] }

def limitedTo (query : Query) (count : UInt64) : Query :=
  { query with limit := some count }

def skipping (query : Query) (count : UInt64) : Query :=
  { query with skip := some count }

def groupedBy (query : Query) (keys : List String) : Query :=
  { query with groupBy := some keys }

def populating (query : Query) (attr : String) (instruction : Instruction) : Query :=
  { query with instructions := query.instructions ++ [(attr, instruction)] }

end Query

end QuerySql
