/-!
# The fewest decimal digits that read back

A positive binary fraction `m · 2^q` stands for all the real numbers that round to it.  Of the
decimal numbers among them, `shortest` finds one with the fewest digits, and of those the one
nearest to the fraction itself; when two are equally near, the one with the even last digit.  All
arithmetic is exact.
-/

namespace FailOpen
namespace Decimal

/-- The number `digits · 10^exponent`. -/
structure Scientific where
  digits : Nat
  exponent : Int
  deriving DecidableEq, Repr

/-- A positive double: `significand · 2^exponent`.  `narrowBelow` says that its lower neighbour is
only half as far away as its upper one. -/
structure Double where
  significand : Nat
  exponent : Int
  narrowBelow : Bool
  deriving DecidableEq, Repr

/-- The absolute value of a finite double, from its bits. -/
def Double.ofBits (bits : UInt64) : Double :=
  let fraction : Nat := bits.toNat % Nat.pow 2 52
  let field : Nat := bits.toNat / Nat.pow 2 52 % Nat.pow 2 11
  if field = 0 then ⟨fraction, -1074, false⟩
  else ⟨Nat.pow 2 52 + fraction, (field : Int) - 1075, fraction = 0 && field != 1⟩

/-- The interval of numbers that round to a double: all three are fourths of its last binary
place, over one denominator. -/
structure Interval where
  low : Nat
  value : Nat
  high : Nat
  denominator : Nat
  /-- Whether the two ends belong to it. -/
  closed : Bool
  deriving DecidableEq, Repr

def Double.interval (d : Double) : Interval :=
  let scale := Nat.pow 2 (d.exponent - 2).toNat
  { low := (4 * d.significand - if d.narrowBelow then 1 else 2) * scale
    value := 4 * d.significand * scale
    high := (4 * d.significand + 2) * scale
    denominator := Nat.pow 2 (2 - d.exponent).toNat
    closed := d.significand % 2 = 0 }

/-- Whether `n · unitNum / unitDen` lies in the interval. -/
def Interval.contains (i : Interval) (n unitNum unitDen : Nat) : Bool :=
  let x := n * unitNum * i.denominator
  if i.closed then i.low * unitDen ≤ x && x ≤ i.high * unitDen
  else i.low * unitDen < x && x < i.high * unitDen

/-- The nearer of the two multiples `n` and `n + 1` of a unit. -/
def Interval.nearer (i : Interval) (n unitNum unitDen : Nat) : Nat :=
  let below := i.value * unitDen - n * unitNum * i.denominator
  let above := (n + 1) * unitNum * i.denominator - i.value * unitDen
  if below < above then n
  else if above < below then n + 1
  else if n % 2 = 0 then n else n + 1

/-- A multiple of a power of ten in the interval, the best of the value's two neighbours. -/
def Interval.onGrid? (i : Interval) (exponent : Int) : Option Nat :=
  let unitNum := Nat.pow 10 exponent.toNat
  let unitDen := Nat.pow 10 (-exponent).toNat
  let n := i.value * unitDen / (i.denominator * unitNum)
  match i.contains n unitNum unitDen, i.contains (n + 1) unitNum unitDen with
  | true, true => some (i.nearer n unitNum unitDen)
  | true, false => some n
  | false, true => some (n + 1)
  | false, false => none

/-- Tries finer and finer grids. -/
def Interval.refine (i : Interval) : (tries : Nat) → (exponent : Int) → Scientific
  | 0, exponent =>
    let unitNum := Nat.pow 10 exponent.toNat
    let unitDen := Nat.pow 10 (-exponent).toNat
    ⟨i.value * unitDen / (i.denominator * unitNum), exponent⟩
  | tries + 1, exponent =>
    match i.onGrid? exponent with
    | some n => ⟨n, exponent⟩
    | none => i.refine tries (exponent - 1)

/-- The number of decimal digits. -/
def length (n : Nat) : Nat :=
  (Nat.toDigits 10 n).length

/-- How many times a fraction below one must be multiplied by ten to reach one. -/
def leadingZeros (num den : Nat) : (tries : Nat) → Nat
  | 0 => 0
  | tries + 1 => if den ≤ num then 0 else leadingZeros (num * 10) den tries + 1

/-- The place of the first digit of the value. -/
def Interval.magnitude (i : Interval) : Int :=
  if i.denominator ≤ i.value then length (i.value / i.denominator) - 1
  else - leadingZeros i.value i.denominator 400

/-- Drops zeros at the end. -/
def trimZeros : (tries : Nat) → Scientific → Scientific
  | 0, s => s
  | tries + 1, s =>
    if s.digits % 10 = 0 then trimZeros tries ⟨s.digits / 10, s.exponent + 1⟩ else s

/-- The decimal with the fewest digits that reads back as the double.  Seventeen digits are always
enough. -/
def shortest (d : Double) : Scientific :=
  trimZeros 17 (d.interval.refine 17 d.interval.magnitude)

end Decimal
end FailOpen
