import QuerySql.Toml.Basic

namespace QuerySql.Toml

inductive Origin where
  /-- Under a header of its own, as an element of an array of tables, or as the document. -/
  | header
  /-- On the way to the table of a header. -/
  | passed
  /-- On the way to the last part of a dotted key. -/
  | dotted
  deriving DecidableEq

inductive Item where
  | value (value : Toml)
  | table (origin : Origin) (entries : List (String × Item))
  | tables (earlier : List (List (String × Item))) (last : List (String × Item))

abbrev Entries := Fields Item

namespace Entries

def alter (opened : Origin) (change : Origin → Entries → Option Entries) :
    List String → Origin → Entries → Option Entries
  | [], origin, entries => change origin entries
  | key :: path, _, entries =>
      match entries.get? key with
      | none =>
          (alter opened change path opened []).map fun inner =>
            entries ++ [(key, .table opened inner)]
      | some (.value _) => none
      | some (.table origin inner) =>
          if opened = .dotted ∧ origin = .header then none
          else
            (alter opened change path origin inner).map fun inner =>
              entries.put key (.table origin inner)
      | some (.tables earlier last) =>
          (alter opened change path .header last).map fun last =>
            entries.put key (.tables earlier last)

/-- Adds a value under a key that is not taken.  The table of a dotted key is one that dotted keys
opened. -/
def define (path : List String) (key : String) (value : Item) (entries : Entries) :
    Option Entries :=
  alter .dotted
    (fun origin entries =>
      if !path.isEmpty && origin != .dotted then none
      else if (entries.get? key).isSome then none
      else some (entries ++ [(key, value)]))
    path .header entries

/-- Opens the table of a header, which has been passed at most.  It then comes after the others. -/
def openTable (path : List String) (key : String) (entries : Entries) : Option Entries :=
  alter .passed
    (fun _ entries =>
      match entries.get? key with
      | none => some (entries ++ [(key, .table .header [])])
      | some (.table .passed inner) => some (entries.erase key ++ [(key, .table .header inner)])
      | _ => none)
    path .header entries

def openElement (path : List String) (key : String) (entries : Entries) : Option Entries :=
  alter .passed
    (fun _ entries =>
      match entries.get? key with
      | none => some (entries ++ [(key, .tables [] [])])
      | some (.tables earlier last) => some (entries.put key (.tables (earlier ++ [last]) []))
      | _ => none)
    path .header entries

def defineUnder (header path : List String) (key : String) (value : Item) (entries : Entries) :
    Option Entries :=
  alter .passed (fun _ => define path key value) header .header entries

end Entries

mutual

def Item.finish : Item → Toml
  | .value value => value
  | .table _ entries => .table (finishEntries entries)
  | .tables earlier last => .array (finishTables earlier ++ [.table (finishEntries last)])
termination_by structural item => item

def finishEntries : List (String × Item) → List (String × Toml)
  | [] => []
  | (key, item) :: rest => (key, item.finish) :: finishEntries rest
termination_by structural entries => entries

def finishTables : List (List (String × Item)) → List Toml
  | [] => []
  | entries :: rest => .table (finishEntries entries) :: finishTables rest
termination_by structural tables => tables

end

end QuerySql.Toml
