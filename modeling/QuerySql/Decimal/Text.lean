import QuerySql.Decimal.Shortest
import QuerySql.Text.Digits

namespace QuerySql.Decimal

namespace Scaled

def digits (number : Scaled) : List Char :=
  Nat.toDigits 10 number.significand

def magnitude (number : Scaled) : Int :=
  number.exponent + number.digits.length - 1

def positional (number : Scaled) : String :=
  let digits := number.digits
  let places := (-number.exponent).toNat
  if places = 0 then String.ofList (digits ++ List.replicate number.exponent.toNat '0')
  else if places < digits.length then
    String.ofList
      (digits.take (digits.length - places) ++ '.' :: digits.drop (digits.length - places))
  else String.ofList ('0' :: '.' :: List.replicate (places - digits.length) '0' ++ digits)

def scientific (number : Scaled) : String :=
  let fraction := number.digits.drop 1
  let mantissa := number.digits.take 1 ++ if fraction.isEmpty then [] else '.' :: fraction
  String.ofList mantissa ++ "e" ++ (if number.magnitude < 0 then "-" else "+")
    ++ Text.decimal number.magnitude.natAbs

end Scaled

def isNegative (number : Float) : Bool :=
  0x8000000000000000 ≤ number.toBits.toNat

def signedText (zero : String) (positive : Float → String) (number : Float) : String :=
  (if isNegative number then "-" else "")
    ++ if number == 0 then zero else positive number.abs

def plain (number : Float) : String :=
  if number.isNaN then "NaN"
  else if number.isInf then (if isNegative number then "-inf" else "inf")
  else signedText "0" (fun magnitude => (shortest .up magnitude).positional) number

end QuerySql.Decimal
