import QuerySql.Toml.Basic

namespace QuerySql.Toml

def field? (digits low high : Nat) (text : List Char) : Option (Nat × List Char) :=
  let taken := text.take digits
  if taken.length = digits && taken.all Char.isDigit then
    let value := Text.decimalValue taken
    if low ≤ value && value ≤ high then some (value, text.drop digits) else none
  else none

def separator? (char : Char) : List Char → Option (List Char)
  | [] => none
  | next :: rest => if next = char then some rest else none

def date? (text : List Char) : Option (Date × List Char) := do
  let (year, rest) ← field? 4 0 9999 text
  let rest ← separator? '-' rest
  let (month, rest) ← field? 2 1 12 rest
  let rest ← separator? '-' rest
  let (day, rest) ← field? 2 1 31 rest
  let date ← Date.of? year month day
  return (date, rest)

def nanoseconds? : List Char → Option (Nat × List Char)
  | '.' :: rest =>
      let (digits, rest) := Text.spanDigits rest
      if digits.isEmpty then none
      else
        let kept := digits.take 9
        some (Text.decimalValue kept * Nat.pow 10 (9 - kept.length), rest)
  | rest => some (0, rest)

def clock? (lastHour : Nat) (text : List Char) : Option (Clock × List Char) := do
  let (hour, rest) ← field? 2 0 lastHour text
  let rest ← separator? ':' rest
  let (minute, rest) ← field? 2 0 59 rest
  let rest ← separator? ':' rest
  let (second, rest) ← field? 2 0 60 rest
  let (nanosecond, rest) ← nanoseconds? rest
  return ({ hour, minute, second, nanosecond }, rest)

def offset? (text : List Char) : Option (Option Offset × List Char) :=
  match text with
  | mark :: rest =>
      if mark = 'Z' || mark = 'z' then some (some .zulu, rest)
      else if mark = '+' || mark = '-' then do
        let (hours, rest) ← field? 2 0 23 rest
        let rest ← separator? ':' rest
        let (minutes, rest) ← field? 2 0 59 rest
        let east : Int := 60 * hours + minutes
        return (some (.minutes (if mark = '-' then -east else east)), rest)
      else some (none, text)
  | [] => some (none, [])

def afterDateMark? : List Char → Option (List Char)
  | mark :: rest => if mark = 'T' || mark = 't' || mark = ' ' then some rest else none
  | [] => none

def moment? (text : List Char) : Option (Toml × List Char) :=
  match date? text with
  | some (date, rest) =>
      match (afterDateMark? rest).bind (clock? 23) with
      | some (clock, rest) =>
          (offset? rest).map fun (offset, rest) =>
            (.moment { date := some date, clock := some clock, offset }, rest)
      | none => some (.moment { date := some date }, rest)
  | none => (clock? 23 text).map fun (clock, rest) => (.moment { clock := some clock }, rest)

def lastOffset? : List Char → Option (Option Offset)
  | [] => some none
  | ['Z'] | ['z'] => some (some .zulu)
  | mark :: rest =>
      if mark = '+' || mark = '-' then do
        let (hours, rest) ← field? 2 0 99 rest
        let rest ← separator? ':' rest
        let (minutes, rest) ← field? 2 0 99 rest
        let east : Int := 60 * hours + minutes
        if rest.isEmpty && east ≤ 24 * 60 then
          some (some (.minutes (if mark = '-' then -east else east)))
        else none
      else none

def wholeClock? (text : List Char) : Option Moment :=
  (clock? 24 text).bind fun (clock, rest) =>
    if rest.isEmpty then some { clock := some clock } else none

def wholeDate? (text : List Char) : Option Moment :=
  (date? text).bind fun (date, rest) =>
    if rest.isEmpty then some { date := some date }
    else
      ((afterDateMark? rest).bind (clock? 24)).bind fun (clock, rest) =>
        (lastOffset? rest).map fun offset =>
          { date := some date, clock := some clock, offset }

def Moment.ofText? (text : String) : Option Moment :=
  if text.toList[2]? = some ':' then wholeClock? text.toList else wholeDate? text.toList

end QuerySql.Toml
