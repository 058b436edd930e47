import FailOpen.Json.Scan

/-!
# The value of a JSON number

A number without fraction and exponent is an integer if it fits a 64-bit word, signed when it is
negative; all other numbers are doubles, and so is minus zero.  A double is made from a significand
that takes the leading digits as long as they fit a 64-bit word, and from a power of ten that
accounts for the others; it is the rounded product or quotient of the two, and one that exceeds all
doubles is a fault.
-/

namespace FailOpen
namespace Json

inductive Number where
  | natural (n : Nat)
  /-- The number `-n`. -/
  | negative (n : Nat)
  | double (x : Float)

/-- The first number beyond the unsigned 64-bit words. -/
def wordBound : Nat := Nat.pow 2 64

/-- The greatest exponent that is read as a number. -/
def maxExponent : Nat := Nat.pow 2 31 - 1

def digitValue (c : Char) : Nat :=
  c.toNat - 48

/-- The number that digits spell. -/
def digitsValue (digits : List Char) : Nat :=
  digits.foldl (fun n c => n * 10 + digitValue c) 0

/-- Appends digits to a significand as long as it fits a word; returns it with the number of digits
left over. -/
def absorb (significand : Nat) : List Char → Nat × Nat
  | [] => (significand, 0)
  | c :: digits =>
    if significand * 10 + digitValue c < wordBound then
      absorb (significand * 10 + digitValue c) digits
    else (significand, digits.length + 1)

def powerOfTen (n : Nat) : Float :=
  Float.ofScientific 1 false n

/-- Multiplies by a power of ten.  Powers below the smallest one are taken in parts, and after two
of them nothing is left. -/
def scaled : (parts : Nat) → Float → Int → Option Float
  | 0, x, _ => some x
  | parts + 1, x, exponent =>
    if 0 ≤ exponent ∧ exponent ≤ 308 then
      let y := x * powerOfTen exponent.toNat
      if y.isInf then none else some y
    else if -308 ≤ exponent ∧ exponent < 0 then some (x / powerOfTen (-exponent).toNat)
    else if x == 0 then some x
    else if 0 ≤ exponent then none
    else scaled parts (x / powerOfTen 308) (exponent + 308)

/-- The double `± significand · 10^exponent`, unless it is beyond all doubles. -/
def double? (negative : Bool) (significand : Nat) (exponent : Int) : Option Float :=
  (scaled 4 significand.toUInt64.toFloat exponent).map fun x => if negative then -x else x

/-- The exponent of a numeral, or `none` for one too long to be read as a number. -/
def Numeral.power? (n : Numeral) : Option Int :=
  match n.exponent with
  | none => some 0
  | some (negative, digits) =>
    let e := digitsValue digits
    if maxExponent < e then none else some (if negative then -e else e)

/-- A numeral as a double.  An exponent too long to be read makes it zero, or too large. -/
def Numeral.double? (n : Numeral) : Option Float :=
  let (wholePart, uncounted) := absorb 0 n.whole
  let fraction := n.fraction.getD []
  let (significand, ignored) := absorb wholePart fraction
  match n.power? with
  | some power =>
    Json.double? n.negative significand (uncounted - (fraction.length - ignored : Nat) + power)
  | none =>
    if n.exponent.any (·.1) || significand = 0 then some (if n.negative then -0.0 else 0.0)
    else none

/-- The value of a numeral. -/
def Numeral.value (n : Numeral) : Except ScanFault Number :=
  let whole := absorb 0 n.whole
  if n.fraction.isNone && n.exponent.isNone && whole.2 = 0 then
    if !n.negative then .ok (.natural whole.1)
    else if 1 ≤ whole.1 && whole.1 ≤ Nat.pow 2 63 then .ok (.negative whole.1)
    else .ok (.double (-whole.1.toUInt64.toFloat))
  else
    match n.double? with
    | some x => .ok (.double x)
    | none => .error .malformed

end Json
end FailOpen
