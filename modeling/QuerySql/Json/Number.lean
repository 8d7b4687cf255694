import QuerySql.Decimal.Text

namespace QuerySql.Json

/-- A number in one of three kinds, so that each number has one representation per kind: `unsigned`
holds only what `signed` cannot. -/
inductive Number where
  | signed (value : Int64)
  | unsigned (value : UInt64) (large : 0x8000000000000000 ≤ value.toNat)
  | float (value : Float) (finite : value.isFinite = true)
  deriving DecidableEq

namespace Number

def ofInt? (value : Int) : Option Number :=
  if -0x8000000000000000 ≤ value ∧ value < 0x8000000000000000 then some (.signed (Int64.ofInt value))
  else if large : 0x8000000000000000 ≤ (UInt64.ofNat value.toNat).toNat then
    if value < 0x10000000000000000 then
      some (.unsigned (UInt64.ofNat value.toNat) large)
    else none
  else none

def ofUInt64 (value : UInt64) : Number :=
  if large : 0x8000000000000000 ≤ value.toNat then .unsigned value large
  else .signed value.toInt64

def ofFloat? (value : Float) : Option Number :=
  if finite : value.isFinite = true then some (.float value finite) else none

def toInt? : Number → Option Int
  | .signed value => some value.toInt
  | .unsigned value _ => some value.toNat
  | .float _ _ => none

def toUInt64? : Number → Option UInt64
  | .signed value => if 0 ≤ value.toInt then some value.toUInt64 else none
  | .unsigned value _ => some value
  | .float _ _ => none

def magnitudeText (magnitude : Float) : String :=
  let number := Decimal.shortest .even magnitude
  if -5 ≤ number.magnitude ∧ number.magnitude < 16 then
    if 0 ≤ number.exponent then number.positional ++ ".0" else number.positional
  else number.scientific

def text : Number → String
  | .signed value => Text.signedDecimal value.toInt
  | .unsigned value _ => Text.decimal value.toNat
  | .float value _ => Decimal.signedText "0.0" magnitudeText value

def absorb (word : Nat) : List Char → Nat × Nat
  | [] => (word, 0)
  | digit :: rest =>
      let next := 10 * word + Text.digitValue digit
      if next < 0x10000000000000000 then absorb next rest else (word, rest.length + 1)

/-- Multiplies a double by `10 ^ exponent`, in steps that the range of doubles allows; `none` where
the product is out of range. -/
def scaled? (value : Float) (exponent : Int) : Option Float :=
  if exponent.natAbs ≤ 308 then
    let power := Float.ofScientific 1 false exponent.natAbs
    if 0 ≤ exponent then
      if (value * power).isInf then none else some (value * power)
    else some (value / power)
  else if value == 0 then some value
  else if 0 ≤ exponent then none
  else scaled? (value / Float.ofScientific 1 false 308) (exponent + 308)
termination_by (-exponent).toNat
decreasing_by omega

/-- The parts of a number literal, already split by the grammar.  `fraction` is empty where there is
no point, `exponent` is `none` where there is no exponent. -/
structure Literal where
  negative : Bool
  whole : List Char
  fraction : List Char
  exponent : Option (Bool × List Char)

namespace Literal

/-- An exponent beyond 32 bits is no longer read: the number is then zero or out of range. -/
def magnitude? (literal : Literal) : Option Float :=
  let (whole, dropped) := absorb 0 literal.whole
  let (word, ignored) := absorb whole literal.fraction
  let start : Int := dropped - (literal.fraction.length - ignored : Nat)
  let value := (UInt64.ofNat word).toFloat
  match literal.exponent with
  | none => scaled? value start
  | some (negative, digits) =>
      let exponent := Text.decimalValue digits
      if 0x80000000 ≤ exponent then
        if word != 0 && !negative then none else some 0
      else if negative then scaled? value (start - exponent)
      else scaled? value (start + exponent)

def whole? (literal : Literal) : Option Number :=
  if literal.fraction.isEmpty && literal.exponent.isNone then
    let magnitude := Text.decimalValue literal.whole
    if !literal.negative then ofInt? magnitude
    else if 0 < magnitude && magnitude ≤ 0x8000000000000000 then ofInt? (-(magnitude : Int))
    else none
  else none

def number? (literal : Literal) : Option Number :=
  match literal.whole? with
  | some number => some number
  | none =>
      literal.magnitude?.bind fun magnitude =>
        ofFloat? (if literal.negative then -magnitude else magnitude)

end Literal

end Number

end QuerySql.Json
