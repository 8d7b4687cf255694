/-!
The shortest decimal that reads back as a given double.  A double stands for the interval of reals
that round to it; `shortest` takes the coarsest power of ten one of whose multiples lies in the
interval, and of two such multiples the nearer.
-/

namespace QuerySql.Decimal

structure Scaled where
  significand : Nat
  exponent : Int

/-- Which of two equally near decimals is taken: the greater, or the one with the even last digit. -/
inductive Tie where
  | up
  | even

/-- The positive reals from `low / unit` to `high / unit`, all of which round to `middle / unit`. -/
structure RoundingInterval where
  low : Nat
  middle : Nat
  high : Nat
  unit : Nat
  closed : Bool

namespace RoundingInterval

/-- The interval of a positive finite double, from its significand and binary exponent.  Below a
power of two the gap to the neighbour is half as wide as above it. -/
def ofBinary (significand : Nat) (exponent : Int) (belowIsNarrow : Bool) : RoundingInterval :=
  let scale := 1 <<< (exponent - 2).toNat
  { low := (4 * significand - if belowIsNarrow then 1 else 2) * scale
    middle := 4 * significand * scale
    high := (4 * significand + 2) * scale
    unit := 1 <<< (2 - exponent).toNat
    closed := significand % 2 == 0 }

def ofFloat (number : Float) : RoundingInterval :=
  let bits := number.toBits.toNat
  let fraction := bits % 0x10000000000000
  let biased : Nat := bits / 0x10000000000000 % 0x800
  if biased = 0 then ofBinary fraction (-1074) false
  else ofBinary (0x10000000000000 + fraction) ((biased : Int) - 1075) (fraction == 0 && 1 < biased)

def grid (interval : RoundingInterval) (exponent : Int) : Nat × Nat :=
  (Nat.pow 10 (-exponent).toNat, interval.unit * Nat.pow 10 exponent.toNat)

def multiple? (interval : RoundingInterval) (tie : Tie) (exponent : Int) : Option Nat :=
  let (scale, step) := interval.grid exponent
  let middle := interval.middle * scale
  let below := middle / step
  let above := below + 1
  let reachesBelow :=
    if interval.closed then interval.low * scale ≤ below * step
    else interval.low * scale < below * step
  let reachesAbove :=
    if interval.closed then above * step ≤ interval.high * scale
    else above * step < interval.high * scale
  let downward := middle - below * step
  let upward := above * step - middle
  if reachesBelow then
    if !reachesAbove || downward < upward then some below
    else if upward < downward then some above
    else
      match tie with
      | .up => some above
      | .even => some (if below % 2 = 0 then below else above)
  else if reachesAbove then some above
  else none

def coarsest (interval : RoundingInterval) (tie : Tie) : Nat → Int → Scaled
  | 0, exponent => ⟨0, exponent⟩
  | steps + 1, exponent =>
      match interval.multiple? tie exponent with
      | some significand => ⟨significand, exponent⟩
      | none => interval.coarsest tie steps (exponent - 1)

end RoundingInterval

/-- The shortest decimal of a positive finite double.  Every double is a multiple of `10 ^ -1074`,
so the search ends there at the latest. -/
def shortest (tie : Tie) (number : Float) : Scaled :=
  let interval := RoundingInterval.ofFloat number
  let start := (Nat.toDigits 10 (interval.high / interval.unit)).length
  interval.coarsest tie (start + 1075) start

end QuerySql.Decimal
