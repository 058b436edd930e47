import FailOpen.Decimal.Shortest

/-!
# Doubles as text

The text of a finite double.  Its digits are the fewest that read back.  Numbers whose first digit
stands between the fifth place after the point and the sixteenth before it are written with a point,
and at least one digit on both sides of it; all others with an exponent, which always has a sign
when it is positive too.
-/

namespace FailOpen
namespace Decimal

/-- The digits of a number, without the point. -/
def Scientific.chars (s : Scientific) : List Char :=
  Nat.toDigits 10 s.digits

/-- The place of the first digit: zero for the units. -/
def Scientific.place (s : Scientific) : Int :=
  s.chars.length - 1 + s.exponent

/-- A number with a point. -/
def Scientific.positional (s : Scientific) : List Char :=
  if s.place < 0 then
    ['0', '.'] ++ List.replicate (-s.place - 1).toNat '0' ++ s.chars
  else if 0 ≤ s.exponent then
    s.chars ++ List.replicate s.exponent.toNat '0' ++ ['.', '0']
  else
    s.chars.take (s.place + 1).toNat ++ ['.'] ++ s.chars.drop (s.place + 1).toNat

/-- A number with an exponent. -/
def Scientific.exponential (s : Scientific) : List Char :=
  let sign := if s.place < 0 then '-' else '+'
  let mantissa :=
    match s.chars with
    | [d] => [d]
    | ds => ds.take 1 ++ ['.'] ++ ds.drop 1
  mantissa ++ ['e', sign] ++ Nat.toDigits 10 s.place.natAbs

def Scientific.text (s : Scientific) : List Char :=
  if -5 ≤ s.place ∧ s.place ≤ 15 then s.positional else s.exponential

/-- The text of a finite double, given by its bits. -/
def textOfBits (bits : UInt64) : String :=
  let sign := if bits.toNat / Nat.pow 2 63 = 1 then ['-'] else []
  let d := Double.ofBits bits
  let digits := if d.significand = 0 then ['0', '.', '0'] else (shortest d).text
  String.ofList (sign ++ digits)

/-- The text of a finite double. -/
def text (x : Float) : String :=
  textOfBits x.toBits

end Decimal
end FailOpen
