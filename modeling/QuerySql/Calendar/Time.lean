import QuerySql.Calendar.Date

namespace QuerySql

structure TimeOfDay where
  hour : Nat
  minute : Nat
  second : Nat
  nanosecond : Nat
  hour_valid : hour < 24
  minute_valid : minute < 60
  second_valid : second < 60
  nanosecond_valid : nanosecond < if second = 59 then 2000000000 else 1000000000

namespace TimeOfDay

def of? (hour minute second nanosecond : Nat) : Option TimeOfDay :=
  if valid : hour < 24 ∧ minute < 60 ∧ second < 60 ∧
      nanosecond < if second = 59 then 2000000000 else 1000000000 then
    some ⟨hour, minute, second, nanosecond, valid.1, valid.2.1, valid.2.2.1, valid.2.2.2⟩
  else none

def isLeapSecond (time : TimeOfDay) : Bool :=
  1000000000 ≤ time.nanosecond

def clockText (time : TimeOfDay) : String :=
  let second := if time.isLeapSecond then time.second + 1 else time.second
  Calendar.twoDigits time.hour ++ ":" ++ Calendar.twoDigits time.minute ++ ":"
    ++ Calendar.twoDigits second

/-- Three, six or nine digits after a point, as many as the fraction needs; nothing for zero. -/
def fractionText (time : TimeOfDay) : String :=
  let fraction := time.nanosecond % 1000000000
  if fraction = 0 then ""
  else if fraction % 1000000 = 0 then
    "." ++ Text.zeroPadded 3 (Text.decimal (fraction / 1000000))
  else if fraction % 1000 = 0 then "." ++ Text.zeroPadded 6 (Text.decimal (fraction / 1000))
  else "." ++ Text.zeroPadded 9 (Text.decimal fraction)

def text (time : TimeOfDay) : String :=
  time.clockText ++ time.fractionText

end TimeOfDay

structure Timestamp where
  date : Date
  time : TimeOfDay

namespace Timestamp

def text (timestamp : Timestamp) : String :=
  timestamp.date.text ++ " " ++ timestamp.time.text

def isoText (timestamp : Timestamp) : String :=
  timestamp.date.text ++ "T" ++ timestamp.time.text

def clockText (timestamp : Timestamp) : String :=
  timestamp.date.text ++ " " ++ timestamp.time.clockText

end Timestamp

end QuerySql
