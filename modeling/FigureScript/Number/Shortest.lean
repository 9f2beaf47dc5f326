/-!
# The shortest decimal that reads back

Among the decimals that round to a given double, `shortest` picks one with the fewest digits, and of
those the one nearest to the double. It looks at the grids of multiples of `10 ^ p` for falling `p`:
the first grid with a point that rounds to the double gives the fewest digits, and on that grid one of
the two neighbours of the double is such a point.
-/

namespace FigureScript.Number

/-- The number `digits * 10 ^ exponent`. -/
structure Decimal where
  digits : Nat
  exponent : Int
  deriving DecidableEq, Repr

/-- Which of two decimals at the same distance is taken. -/
inductive Tie where
  | away
  | toEven
  deriving DecidableEq, Repr

/-- The numbers that round to one double, all over the same denominator. -/
structure Interval where
  lower : Nat
  center : Nat
  upper : Nat
  denominator : Nat
  /-- Whether the two ends themselves round to the double. -/
  closed : Bool
  deriving DecidableEq, Repr

/-- The numbers that round to `significand * 2 ^ exponent`. They reach half way to the next double on
either side; below a power of two the next double is only half as far. -/
def Interval.around (significand : Nat) (exponent : Int) : Interval :=
  let below := if significand = Nat.pow 2 52 ∧ -1074 < exponent then 1 else 2
  let factor := Nat.pow 2 exponent.toNat
  { lower := (4 * significand - below) * factor
    center := 4 * significand * factor
    upper := (4 * significand + 2) * factor
    denominator := 4 * Nat.pow 2 (-exponent).toNat
    closed := significand % 2 == 0 }

/-- Membership of `point / unit` in the interval when its ends are given over the same unit. -/
def Interval.admits (interval : Interval) (lower point upper : Nat) : Bool :=
  if interval.closed then decide (lower ≤ point ∧ point ≤ upper)
  else decide (lower < point ∧ point < upper)

/-- The multiple of `10 ^ exponent` that rounds to the double and lies nearest to it, if there is
one. -/
def Interval.onGrid (interval : Interval) (tie : Tie) (exponent : Int) : Option Nat :=
  let factor := Nat.pow 10 (-exponent).toNat
  let unit := interval.denominator * Nat.pow 10 exponent.toNat
  let lower := interval.lower * factor
  let center := interval.center * factor
  let upper := interval.upper * factor
  let floor := center / unit
  let belowFits := interval.admits lower (floor * unit) upper
  let aboveFits := interval.admits lower ((floor + 1) * unit) upper
  let twiceRemainder := 2 * (center % unit)
  let nearerAbove :=
    if twiceRemainder = unit then
      match tie with
      | .away => true
      | .toEven => floor % 2 == 1
    else decide (unit < twiceRemainder)
  if belowFits && aboveFits then some (if nearerAbove then floor + 1 else floor)
  else if belowFits then some floor
  else if aboveFits then some (floor + 1)
  else none

/-- The first hit on the grids `10 ^ (steps - 1074)` and finer. The finest of them holds every
double, so the search always ends in a hit. -/
def Interval.search (interval : Interval) (tie : Tie) : (steps : Nat) → Decimal
  | 0 => ⟨(interval.onGrid tie (-1074)).getD 0, -1074⟩
  | steps + 1 =>
    let exponent : Int := (steps + 1 : Nat) - 1074
    match interval.onGrid tie exponent with
    | some digits => ⟨digits, exponent⟩
    | none => interval.search tie steps

/-- The shortest decimal that rounds to `significand * 2 ^ exponent`. No power of ten with more digits
than the upper end has a multiple in the interval, so the search starts there. -/
def shortest (tie : Tie) (significand : Nat) (exponent : Int) : Decimal :=
  if significand = 0 then ⟨0, 0⟩
  else
    let interval := Interval.around significand exponent
    let length := (Nat.toDigits 10 (interval.upper / interval.denominator)).length
    interval.search tie (1074 + length)

end FigureScript.Number
