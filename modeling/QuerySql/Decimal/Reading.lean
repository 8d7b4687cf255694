import QuerySql.Text.Case
import QuerySql.Text.Digits

namespace QuerySql.Decimal

/-- The double nearest to `significand * 10 ^ exponent`.  A number far outside the range of doubles
is not computed: it is zero or infinite. -/
def nearest (significand : Nat) (exponent : Int) : Float :=
  let magnitude := exponent + (Nat.toDigits 10 significand).length
  if significand = 0 || magnitude < -400 then 0
  else if 400 < magnitude then 1 / 0
  else Float.ofScientific significand (exponent < 0) exponent.natAbs

structure Parts where
  whole : List Char
  fraction : List Char
  exponent : Int

def Parts.nearest (parts : Parts) : Float :=
  Decimal.nearest (Text.decimalValue (parts.whole ++ parts.fraction))
    (parts.exponent - parts.fraction.length)

def exponent? : List Char → Option Int
  | [] => some 0
  | mark :: rest =>
      if mark = 'e' || mark = 'E' then
        let (negative, digits) :=
          match rest with
          | '-' :: digits => (true, digits)
          | '+' :: digits => (false, digits)
          | digits => (false, digits)
        if digits.isEmpty || !digits.all Char.isDigit then none
        else if negative then some (-(Text.decimalValue digits : Int))
        else some (Text.decimalValue digits)
      else none

def parts? (text : List Char) : Option Parts :=
  let (whole, rest) := Text.spanDigits text
  let (fraction, rest) :=
    match rest with
    | '.' :: rest => Text.spanDigits rest
    | rest => ([], rest)
  if whole.isEmpty && fraction.isEmpty then none
  else (exponent? rest).map fun exponent => ⟨whole, fraction, exponent⟩

def unsigned? (text : List Char) : Option Float :=
  let word := String.ofList text
  if Text.equalsIgnoringCase word "nan" then some (0 / 0)
  else if Text.equalsIgnoringCase word "inf" || Text.equalsIgnoringCase word "infinity" then
    some (1 / 0)
  else (parts? text).map Parts.nearest

def read? (text : String) : Option Float :=
  match text.toList with
  | '-' :: rest => (unsigned? rest).map fun number => -number
  | '+' :: rest => unsigned? rest
  | rest => unsigned? rest

end QuerySql.Decimal
