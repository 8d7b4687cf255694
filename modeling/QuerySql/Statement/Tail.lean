import QuerySql.Query.Basic
import QuerySql.Sql.Fragment

namespace QuerySql

open Sql

inductive GroupKey where
  | column (ref : ColumnRef)
  | expression (text : String)

def Table.groupKey (table : Table) (key : String) : GroupKey :=
  match table.resolve? key with
  | some _ => .column (table.columnRef key)
  | none => .expression key

def GroupKey.fragments : GroupKey → List Fragment
  | .column ref => ref.fragments
  | .expression text => [.verbatim text]

structure Tail where
  groups : List GroupKey
  orders : List (ColumnRef × SortDirection)
  limit : Option UInt64
  offset : Option UInt64

namespace Tail

/-- The limit where rows are skipped and no limit is asked for, since some engines refuse an offset
alone. -/
def unlimited : UInt64 := 184467440737095516

def of (table : Table) (query : Query) : Tail where
  groups := (query.groupBy.getD []).map table.groupKey
  orders := query.sort.map fun (key, direction) => (table.columnRef key, direction)
  limit := query.limit.or (query.skip.map fun _ => unlimited)
  offset := query.skip

def orderFragments (order : ColumnRef × SortDirection) : List Fragment :=
  order.1.fragments ++ [.fixed (" " ++ order.2.sql)]

def listClause (keyword : String) (entries : List (List Fragment)) : List Fragment :=
  if entries.isEmpty then [] else .fixed keyword :: Fragment.separated ", " entries

def countClause (keyword : String) (count : Option UInt64) : List Fragment :=
  match count with
  | none => []
  | some count => [.fixed (keyword ++ Text.decimal count.toNat)]

def fragments (tail : Tail) : List Fragment :=
  listClause " GROUP BY " (tail.groups.map GroupKey.fragments)
    ++ listClause " ORDER BY " (tail.orders.map orderFragments)
    ++ countClause " LIMIT " tail.limit
    ++ countClause " OFFSET " tail.offset

end Tail

end QuerySql
