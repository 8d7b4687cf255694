import QuerySql.Text.Digits

namespace QuerySql

namespace Calendar

def isLeapYear (year : Int) : Bool :=
  year % 4 == 0 && (year % 100 != 0 || year % 400 == 0)

def daysInMonth (year : Int) (month : Nat) : Nat :=
  if month = 2 then (if isLeapYear year then 29 else 28)
  else if month = 4 || month = 6 || month = 9 || month = 11 then 30
  else 31

def yearText (year : Int) : String :=
  if 0 ≤ year ∧ year ≤ 9999 then Text.zeroPadded 4 (Text.decimal year.natAbs)
  else (if year < 0 then "-" else "+") ++ Text.zeroPadded 4 (Text.decimal year.natAbs)

def twoDigits (number : Nat) : String :=
  Text.zeroPadded 2 (Text.decimal number)

end Calendar

structure Date where
  year : Int
  month : Nat
  day : Nat
  month_valid : 1 ≤ month ∧ month ≤ 12
  day_valid : 1 ≤ day ∧ day ≤ Calendar.daysInMonth year month

namespace Date

def of? (year : Int) (month day : Nat) : Option Date :=
  if month_valid : 1 ≤ month ∧ month ≤ 12 then
    if day_valid : 1 ≤ day ∧ day ≤ Calendar.daysInMonth year month then
      some ⟨year, month, day, month_valid, day_valid⟩
    else none
  else none

def text (date : Date) : String :=
  Calendar.yearText date.year ++ "-" ++ Calendar.twoDigits date.month ++ "-"
    ++ Calendar.twoDigits date.day

end Date

end QuerySql
