import QuerySql.Decimal.Reading
import QuerySql.Toml.Moment
import QuerySql.Toml.Text

namespace QuerySql.Toml

def grouped? (isDigit : Char → Bool) : List Char → Option (List Char × List Char)
  | [] => none
  | digit :: rest =>
      if !isDigit digit then none
      else
        match rest with
        | '_' :: rest => (grouped? isDigit rest).map fun (digits, rest) => (digit :: digits, rest)
        | next :: rest =>
            if isDigit next then
              (grouped? isDigit (next :: rest)).map fun (digits, rest) => (digit :: digits, rest)
            else some ([digit], next :: rest)
        | [] => some ([digit], [])

def sign : List Char → Bool × List Char
  | '-' :: rest => (true, rest)
  | '+' :: rest => (false, rest)
  | rest => (false, rest)

def wholeDigits? : List Char → Option (List Char × List Char)
  | '0' :: rest => some (['0'], rest)
  | text => grouped? Char.isDigit text

def int64? (value : Int) : Option Toml :=
  if -0x8000000000000000 ≤ value ∧ value < 0x8000000000000000 then some (.integer (Int64.ofInt value)) else none

def based? (base : Nat) (text : List Char) : Option (Toml × List Char) :=
  let isDigit := fun char => ((Text.hexDigitValue? char).map (decide <| · < base)).getD false
  (grouped? isDigit text).bind fun (digits, rest) =>
    ((Text.valueInBase? base digits).bind fun value => int64? value).map fun value =>
      (value, rest)

def decimalInteger? (text : List Char) : Option (Toml × List Char) :=
  let (negative, rest) := sign text
  (wholeDigits? rest).bind fun (digits, rest) =>
    let magnitude : Int := Text.decimalValue digits
    (int64? (if negative then -magnitude else magnitude)).map fun value => (value, rest)

def integer? : List Char → Option (Toml × List Char)
  | '0' :: 'x' :: rest => based? 16 rest
  | '0' :: 'o' :: rest => based? 8 rest
  | '0' :: 'b' :: rest => based? 2 rest
  | text => decimalInteger? text

def fraction? : List Char → Option (List Char × List Char)
  | '.' :: rest => grouped? Char.isDigit rest
  | rest => some ([], rest)

def exponent? (text : List Char) : Option (Option Int × List Char) :=
  match text with
  | mark :: rest =>
      if mark = 'e' || mark = 'E' then
        let (negative, rest) := sign rest
        (grouped? Char.isDigit rest).map fun (digits, rest) =>
          let magnitude : Int := Text.decimalValue digits
          (some (if negative then -magnitude else magnitude), rest)
      else some (none, text)
  | [] => some (none, [])

def decimalFloat? (text : List Char) : Option (Toml × List Char) := do
  let (negative, rest) := sign text
  let (whole, rest) ← wholeDigits? rest
  let (fraction, rest) ← fraction? rest
  let (exponent, rest) ← exponent? rest
  if fraction.isEmpty && exponent.isNone then none
  else
    let magnitude := Decimal.Parts.nearest ⟨whole, fraction, exponent.getD 0⟩
    let value := if negative then -magnitude else magnitude
    if value.isInf && !negative then none else some (.float value, rest)

def wordFloat? (text : List Char) : Option (Toml × List Char) :=
  let (negative, rest) := sign text
  let signed (value : Float) : Toml := .float (if negative then -value else value)
  match rest with
  | 'i' :: 'n' :: 'f' :: rest => some (signed (1 / 0), rest)
  | 'n' :: 'a' :: 'n' :: rest => some (signed (0 / 0), rest)
  | _ => none

def scalar? (text : List Char) : Option (Toml × List Char) :=
  match text with
  | 't' :: 'r' :: 'u' :: 'e' :: rest => some (.boolean true, rest)
  | 'f' :: 'a' :: 'l' :: 's' :: 'e' :: rest => some (.boolean false, rest)
  | _ => (moment? text).or ((decimalFloat? text).or ((wordFloat? text).or (integer? text)))

end QuerySql.Toml
