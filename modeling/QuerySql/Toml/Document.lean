import QuerySql.Toml.Scalar
import QuerySql.Toml.Table

/-!
Reading TOML documents.  `none` stands for every kind of malformed text.
-/

namespace QuerySql.Toml

def skipComment (text : List Char) : List Char :=
  match text with
  | '#' :: rest => rest.dropWhile isPlain
  | _ => text

def skipFiller? : Nat → List Char → Option (List Char)
  | 0, _ => none
  | fuel + 1, text =>
      match skipBlanks text with
      | '#' :: rest => (newline? (skipComment ('#' :: rest))).bind (skipFiller? fuel)
      | rest =>
          match newline? rest with
          | some rest => skipFiller? fuel rest
          | none => some rest

def finishLine? (text : List Char) : Option (List Char) :=
  match skipComment (skipBlanks text) with
  | [] => some []
  | rest => newline? rest

def maxDepth : Nat := 79

mutual

def value? : Nat → Nat → List Char → Option (Toml × List Char)
  | 0, _, _ => none
  | fuel + 1, depth, text =>
      match text with
      | '[' :: rest =>
          if depth = 0 then none
          else
            (skipFiller? (rest.length + 1) rest).bind fun rest =>
              match rest with
              | ']' :: rest => some (.array [], rest)
              | rest =>
                  (items? fuel (depth - 1) rest).map fun (items, rest) => (.array items, rest)
      | '\x7b' :: rest =>
          if depth = 0 then none
          else
            match skipBlanks rest with
            | '\x7d' :: rest => some (.table [], rest)
            | rest =>
                (entries? fuel (depth - 1) [] rest).map fun (entries, rest) =>
                  (.table (finishEntries entries), rest)
      | '"' :: rest => (string? ('"' :: rest)).map fun (text, rest) => (.string text, rest)
      | '\'' :: rest => (string? ('\'' :: rest)).map fun (text, rest) => (.string text, rest)
      | text => scalar? text

def items? : Nat → Nat → List Char → Option (List Toml × List Char)
  | 0, _, _ => none
  | fuel + 1, depth, text =>
      (value? fuel depth text).bind fun (item, rest) =>
        (skipFiller? (rest.length + 1) rest).bind fun rest =>
          match rest with
          | ']' :: rest => some ([item], rest)
          | ',' :: rest =>
              (skipFiller? (rest.length + 1) rest).bind fun rest =>
                match rest with
                | ']' :: rest => some ([item], rest)
                | rest =>
                    (items? fuel depth rest).map fun (items, rest) => (item :: items, rest)
          | _ => none

def entries? : Nat → Nat → Entries → List Char → Option (Entries × List Char)
  | 0, _, _, _ => none
  | fuel + 1, depth, entries, text =>
      (key? text).bind fun ((path, name), rest) =>
        (separator? '=' rest).bind fun rest =>
          (value? fuel depth (skipBlanks rest)).bind fun (value, rest) =>
            (entries.define path name (.value value)).bind fun entries =>
              match skipBlanks rest with
              | '\x7d' :: rest => some (entries, rest)
              | ',' :: rest => entries? fuel depth entries rest
              | _ => none

end

/-- The document as far as it has been read, and the header that is in force. -/
structure Draft where
  header : List String := []
  entries : Entries := []

/-- A header in brackets, one pair for a table and two for an element of an array of tables. -/
def header? (draft : Draft) : List Char → Option (Draft × List Char)
  | '[' :: '[' :: rest =>
      (key? rest).bind fun ((path, name), rest) =>
        ((separator? ']' rest).bind (separator? ']')).bind fun rest =>
          (draft.entries.openElement path name).map fun entries =>
            ({ header := path ++ [name], entries }, rest)
  | '[' :: rest =>
      (key? rest).bind fun ((path, name), rest) =>
        (separator? ']' rest).bind fun rest =>
          (draft.entries.openTable path name).map fun entries =>
            ({ header := path ++ [name], entries }, rest)
  | _ => none

def assignment? (draft : Draft) (text : List Char) : Option (Draft × List Char) :=
  (key? text).bind fun ((path, name), rest) =>
    (separator? '=' rest).bind fun rest =>
      let rest := skipBlanks rest
      (value? (2 * rest.length + 2) maxDepth rest).bind fun (value, rest) =>
        (draft.entries.defineUnder draft.header path name (.value value)).map fun entries =>
          ({ draft with entries }, rest)

def lines? (draft : Draft) : Nat → List Char → Option Entries
  | 0, _ => none
  | fuel + 1, text =>
      match skipBlanks text with
      | [] => some draft.entries
      | '#' :: rest => (finishLine? ('#' :: rest)).bind (lines? draft fuel)
      | '[' :: rest =>
          (header? draft ('[' :: rest)).bind fun (draft, rest) =>
            (finishLine? rest).bind (lines? draft fuel)
      | rest =>
          match newline? rest with
          | some rest => lines? draft fuel rest
          | none =>
              (assignment? draft rest).bind fun (draft, rest) =>
                (finishLine? rest).bind (lines? draft fuel)

def momentKey : String := "$__toml_private_datetime"

def momentValue? : List (String × Toml) → Option Toml
  | (key, value) :: _ => if key = momentKey then some value else none
  | [] => none

def spelled? : Toml → Option Moment
  | .string text => Moment.ofText? text
  | _ => none

mutual

/-- Puts moments in the place of the tables that stand for them, whatever else these hold. -/
def settle? : Toml → Option Toml
  | .array items => (settleItems? items).map .array
  | .table entries =>
      match momentValue? entries with
      | some value => (spelled? value).map .moment
      | none => (settleEntries? entries).map .table
  | .string value => some (.string value)
  | .integer value => some (.integer value)
  | .float value => some (.float value)
  | .boolean value => some (.boolean value)
  | .moment value => some (.moment value)
termination_by structural toml => toml

def settleItems? : List Toml → Option (List Toml)
  | [] => some []
  | item :: rest =>
      (settle? item).bind fun item => (settleItems? rest).map fun items => item :: items
termination_by structural items => items

def settleEntries? : List (String × Toml) → Option (List (String × Toml))
  | [] => some []
  | (key, value) :: rest =>
      (settle? value).bind fun value =>
        (settleEntries? rest).map fun entries => (key, value) :: entries
termination_by structural entries => entries

end

def parse? (text : String) : Option Toml :=
  let characters :=
    match text.toList with
    | mark :: rest => if mark.toNat = 0xFEFF then rest else mark :: rest
    | [] => []
  (lines? {} (characters.length + 1) characters).bind fun entries =>
    settle? (.table (finishEntries entries))

end QuerySql.Toml
