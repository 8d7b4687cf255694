import QuerySql.Text.Digits

namespace QuerySql.Toml

def isBlank (char : Char) : Bool :=
  char = ' ' || char = '\t'

def skipBlanks (text : List Char) : List Char :=
  text.dropWhile isBlank

def isPlain (char : Char) : Bool :=
  char = '\t' || (0x20 ≤ char.toNat && char.toNat ≠ 0x7F)

def newline? : List Char → Option (List Char)
  | '\n' :: rest => some rest
  | '\r' :: '\n' :: rest => some rest
  | _ => none

def isBareKeyChar (char : Char) : Bool :=
  char.isAlphanum || char = '-' || char = '_'

def codePoint? (digits : Nat) (text : List Char) : Option (Char × List Char) :=
  if text.length < digits then none
  else
    (Text.valueInBase? 16 (text.take digits)).bind fun code =>
      if code < 0xD800 || (0xE000 ≤ code && code < 0x110000) then
        some (Char.ofNat code, text.drop digits)
      else none

def escape? : List Char → Option (Char × List Char)
  | 'b' :: rest => some (Char.ofNat 0x08, rest)
  | 't' :: rest => some ('\t', rest)
  | 'n' :: rest => some ('\n', rest)
  | 'f' :: rest => some (Char.ofNat 0x0C, rest)
  | 'r' :: rest => some ('\r', rest)
  | '"' :: rest => some ('"', rest)
  | '\\' :: rest => some ('\\', rest)
  | 'u' :: rest => codePoint? 4 rest
  | 'U' :: rest => codePoint? 8 rest
  | _ => none

def basicRest? (taken : List Char) : Nat → List Char → Option (String × List Char)
  | 0, _ => none
  | _, [] => none
  | _ + 1, '"' :: rest => some (String.ofList taken.reverse, rest)
  | fuel + 1, '\\' :: rest =>
      (escape? rest).bind fun (char, rest) => basicRest? (char :: taken) fuel rest
  | fuel + 1, char :: rest =>
      if isPlain char then basicRest? (char :: taken) fuel rest else none

def literalRest? (text : List Char) : Option (String × List Char) :=
  let content := text.takeWhile fun char => isPlain char && char != '\''
  match text.drop content.length with
  | '\'' :: rest => some (String.ofList content, rest)
  | _ => none

def skipLines : Nat → List Char → List Char
  | 0, text => text
  | fuel + 1, text =>
      match newline? text with
      | some rest => skipLines fuel rest
      | none =>
          match text with
          | char :: rest => if isBlank char then skipLines fuel rest else text
          | [] => []

def continuation? (text : List Char) : Option (List Char) :=
  (newline? (skipBlanks text)).map fun rest => skipLines rest.length rest

/-- The end of a string over several lines, after three quotes: up to two more belong to the
string. -/
def closeLong (quote : Char) (taken text : List Char) : String × List Char :=
  let extra := (text.take 2).takeWhile (· == quote)
  (String.ofList (taken.reverse ++ extra), text.drop extra.length)

def longRest? (quote : Char) (escapes : Bool) (taken : List Char) :
    Nat → List Char → Option (String × List Char)
  | 0, _ => none
  | _, [] => none
  | fuel + 1, char :: rest =>
      if [quote, quote, quote].isPrefixOf (char :: rest) then
        some (closeLong quote taken (rest.drop 2))
      else
        match newline? (char :: rest) with
        | some rest => longRest? quote escapes ('\n' :: taken) fuel rest
        | none =>
            if escapes && char = '\\' then
              match continuation? rest with
              | some rest => longRest? quote escapes taken fuel rest
              | none =>
                  (escape? rest).bind fun (char, rest) =>
                    longRest? quote escapes (char :: taken) fuel rest
            else if isPlain char then longRest? quote escapes (char :: taken) fuel rest
            else none

def long? (quote : Char) (escapes : Bool) (text : List Char) : Option (String × List Char) :=
  let text := (newline? text).getD text
  longRest? quote escapes [] (text.length + 1) text

def string? : List Char → Option (String × List Char)
  | '"' :: '"' :: '"' :: rest => long? '"' true rest
  | '\'' :: '\'' :: '\'' :: rest => long? '\'' false rest
  | '"' :: rest => basicRest? [] (rest.length + 1) rest
  | '\'' :: rest => literalRest? rest
  | _ => none

def simpleKey? : List Char → Option (String × List Char)
  | '"' :: rest => basicRest? [] (rest.length + 1) rest
  | '\'' :: rest => literalRest? rest
  | text =>
      let name := text.takeWhile isBareKeyChar
      if name.isEmpty then none else some (String.ofList name, text.drop name.length)

def maxKeyParts : Nat := 79

def keyParts? : Nat → List Char → Option (List String × List Char)
  | 0, _ => none
  | parts + 1, text =>
      (simpleKey? (skipBlanks text)).bind fun (part, rest) =>
        match skipBlanks rest with
        | '.' :: rest => (keyParts? parts rest).map fun (path, rest) => (part :: path, rest)
        | rest => some ([part], rest)

def key? (text : List Char) : Option ((List String × String) × List Char) :=
  (keyParts? maxKeyParts text).bind fun (path, rest) =>
    path.getLast?.map fun name => ((path.dropLast, name), rest)

end QuerySql.Toml
