import QuerySql.Statement.Selection

namespace QuerySql

open Sql

structure Join where
  table : String
  qualifier : String
  parentKey : ColumnRef
  childKey : ColumnRef

namespace Join

def of (schema : Schema) (attr : String) (instruction : Instruction) : Except Error Join :=
  (instruction.firstStage attr).bind fun stage =>
    (schema.require stage.parent).bind fun parent =>
      (schema.require stage.child).map fun child =>
        let qualifier := joinQualifier (stage.associationName attr)
        { table := child.name
          qualifier
          parentKey := parent.columnRef stage.parentKey
          childKey := ⟨qualifier, child.column stage.childKey⟩ }

def all (schema : Schema) : List (String × Instruction) → Except Error (List Join)
  | [] => .ok []
  | (attr, instruction) :: rest =>
      if instruction.join = .parentHoldsKey then
        (of schema attr instruction).bind fun join => (all schema rest).map (join :: ·)
      else all schema rest

def fragments (dialect : Dialect) (join : Join) : List Fragment :=
  .fixed "LEFT OUTER JOIN " :: aliasedTable dialect join.table join.qualifier
    ++ .fixed " ON " :: join.parentKey.fragments
    ++ .fixed " = " :: join.childKey.fragments

end Join

end QuerySql
