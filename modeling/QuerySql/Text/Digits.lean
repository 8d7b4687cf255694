namespace QuerySql.Text

def decimal (number : Nat) : String :=
  String.ofList (Nat.toDigits 10 number)

def signedDecimal (number : Int) : String :=
  if number < 0 then "-" ++ decimal number.natAbs else decimal number.natAbs

def zeroPadded (width : Nat) (text : String) : String :=
  String.ofList (List.replicate (width - text.length) '0') ++ text

def hex (width number : Nat) : String :=
  zeroPadded width (String.ofList (Nat.toDigits 16 number))

def digitValue (char : Char) : Nat :=
  char.toNat - '0'.toNat

def hexDigitValue? (char : Char) : Option Nat :=
  if char.isDigit then some (digitValue char)
  else if 'a' ≤ char && char ≤ 'f' then some (char.toNat - 'a'.toNat + 10)
  else if 'A' ≤ char && char ≤ 'F' then some (char.toNat - 'A'.toNat + 10)
  else none

def decimalValue (digits : List Char) : Nat :=
  digits.foldl (fun value char => 10 * value + digitValue char) 0

def valueInBase? (base : Nat) : List Char → Option Nat :=
  go 0
where
  go (value : Nat) : List Char → Option Nat
    | [] => some value
    | char :: rest =>
        match hexDigitValue? char with
        | some digit => if digit < base then go (base * value + digit) rest else none
        | none => none

def spanDigits (text : List Char) : List Char × List Char :=
  (text.takeWhile Char.isDigit, text.dropWhile Char.isDigit)

end QuerySql.Text
