import QuerySql.Json.Basic

namespace QuerySql.Json

namespace Parser

def isBlank (char : Char) : Bool :=
  char = ' ' || char = '\n' || char = '\t' || char = '\r'

def skipBlanks (text : List Char) : List Char :=
  text.dropWhile isBlank

def expect? (char : Char) : List Char → Option (List Char)
  | [] => none
  | next :: rest => if next = char then some rest else none

def codeUnit? : List Char → Option (Nat × List Char)
  | a :: b :: c :: d :: rest => (Text.valueInBase? 16 [a, b, c, d]).map (·, rest)
  | _ => none

def escapedUnit? (text : List Char) : Option (Char × List Char) := do
  let (first, rest) ← codeUnit? text
  if 0xDC00 ≤ first ∧ first < 0xE000 then none
  else if 0xD800 ≤ first ∧ first < 0xDC00 then
    match rest with
    | '\\' :: 'u' :: rest =>
        let (second, rest) ← codeUnit? rest
        if 0xDC00 ≤ second ∧ second < 0xE000 then
          some (Char.ofNat (0x10000 + (first - 0xD800) * 0x400 + (second - 0xDC00)), rest)
        else none
    | _ => none
  else some (Char.ofNat first, rest)

def shortEscape? : Char → Option Char
  | '"' => some '"'
  | '\\' => some '\\'
  | '/' => some '/'
  | 'b' => some (Char.ofNat 0x08)
  | 'f' => some (Char.ofNat 0x0C)
  | 'n' => some '\n'
  | 'r' => some '\r'
  | 't' => some '\t'
  | _ => none

def quotedRest? (taken : List Char) : Nat → List Char → Option (String × List Char)
  | 0, _ => none
  | _, [] => none
  | _ + 1, '"' :: rest => some (String.ofList taken.reverse, rest)
  | fuel + 1, '\\' :: 'u' :: rest => do
      let (char, rest) ← escapedUnit? rest
      quotedRest? (char :: taken) fuel rest
  | fuel + 1, '\\' :: letter :: rest => do
      let char ← shortEscape? letter
      quotedRest? (char :: taken) fuel rest
  | fuel + 1, char :: rest =>
      if char.toNat < 0x20 || char = '\\' then none
      else quotedRest? (char :: taken) fuel rest

def quoted? (text : List Char) : Option (String × List Char) := do
  let rest ← expect? '"' text
  quotedRest? [] (rest.length + 1) rest

def fraction? : List Char → Option (List Char × List Char)
  | '.' :: rest =>
      let (digits, rest) := Text.spanDigits rest
      if digits.isEmpty then none else some (digits, rest)
  | rest => some ([], rest)

def exponent? (text : List Char) : Option (Option (Bool × List Char) × List Char) :=
  match text with
  | mark :: rest =>
      if mark = 'e' || mark = 'E' then
        let (negative, rest) :=
          match rest with
          | '-' :: rest => (true, rest)
          | '+' :: rest => (false, rest)
          | rest => (false, rest)
        let (digits, rest) := Text.spanDigits rest
        if digits.isEmpty then none else some (some (negative, digits), rest)
      else some (none, text)
  | [] => some (none, [])

def number? (text : List Char) : Option (Number × List Char) := do
  let (negative, rest) :=
    match text with
    | '-' :: rest => (true, rest)
    | rest => (false, rest)
  let (whole, rest) := Text.spanDigits rest
  if whole.isEmpty || (whole.head? = some '0' && 1 < whole.length) then none
  else
    let (fraction, rest) ← fraction? rest
    let (exponent, rest) ← exponent? rest
    let number ← Number.Literal.number? ⟨negative, whole, fraction, exponent⟩
    some (number, rest)

def word? (word : String) (value : Json) (text : List Char) : Option (Json × List Char) :=
  if word.toList.isPrefixOf text then some (value, text.drop word.length) else none

/-- How many arrays and objects may stand inside one another. -/
def maxDepth : Nat := 127

mutual

def value? : Nat → Nat → List Char → Option (Json × List Char)
  | 0, _, _ => none
  | fuel + 1, depth, text =>
      match skipBlanks text with
      | '"' :: rest => (quoted? ('"' :: rest)).map fun (value, rest) => (.string value, rest)
      | '[' :: rest =>
          if depth = 0 then none
          else
            match skipBlanks rest with
            | ']' :: rest => some (.array [], rest)
            | rest => (items? fuel (depth - 1) rest).map fun (items, rest) => (.array items, rest)
      | '\x7b' :: rest =>
          if depth = 0 then none
          else
            match skipBlanks rest with
            | '\x7d' :: rest => some (.object [], rest)
            | rest =>
                (fields? fuel (depth - 1) rest).map fun (fields, rest) =>
                  (.object (Fields.collect fields), rest)
      | 'n' :: rest => word? "null" .null ('n' :: rest)
      | 't' :: rest => word? "true" (.bool true) ('t' :: rest)
      | 'f' :: rest => word? "false" (.bool false) ('f' :: rest)
      | rest => (number? rest).map fun (literal, rest) => (.number literal, rest)

def items? : Nat → Nat → List Char → Option (List Json × List Char)
  | 0, _, _ => none
  | fuel + 1, depth, text => do
      let (item, rest) ← value? fuel depth text
      match skipBlanks rest with
      | ']' :: rest => some ([item], rest)
      | ',' :: rest =>
          let (items, rest) ← items? fuel depth rest
          some (item :: items, rest)
      | _ => none

def fields? : Nat → Nat → List Char → Option (List (String × Json) × List Char)
  | 0, _, _ => none
  | fuel + 1, depth, text => do
      let (name, rest) ← quoted? (skipBlanks text)
      let rest ← expect? ':' (skipBlanks rest)
      let (value, rest) ← value? fuel depth rest
      match skipBlanks rest with
      | '\x7d' :: rest => some ([(name, value)], rest)
      | ',' :: rest =>
          let (fields, rest) ← fields? fuel depth rest
          some ((name, value) :: fields, rest)
      | _ => none

end

end Parser

def parse? (text : String) : Option Json := do
  let characters := text.toList
  let (json, rest) ← Parser.value? (2 * characters.length + 2) Parser.maxDepth characters
  if (Parser.skipBlanks rest).isEmpty then some json else none

end QuerySql.Json
