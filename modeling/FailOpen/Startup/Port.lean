/-!
# Port numbers as text

Reading a port from decimal text.  An optional plus sign is followed by digits; leading zeros are
allowed.  The text is read from left to right, and at each character a character that is no digit is
noticed before a number that has grown too large.
-/

namespace FailOpen
namespace Startup

inductive PortFault where
  | empty
  | invalidDigit
  | tooLarge
  deriving DecidableEq, Repr

def PortFault.message : PortFault → String
  | .empty => "cannot parse integer from empty string"
  | .invalidDigit => "invalid digit found in string"
  | .tooLarge => "number too large to fit in target type"

namespace Port

/-- The first number that is no port. -/
def bound : Nat := 65536

def digit? (c : Char) : Option Nat :=
  if '0' ≤ c ∧ c ≤ '9' then some (c.toNat - 48) else none

/-- Appends decimal digits to a number that is still small enough. -/
def readDigits (value : Nat) : List Char → Except PortFault Nat
  | [] => .ok value
  | c :: rest =>
    match digit? c with
    | none => .error .invalidDigit
    | some d => if value * 10 + d < bound then readDigits (value * 10 + d) rest else .error .tooLarge

/-- The number that a text spells, if it is a port. -/
def read (text : List Char) : Except PortFault UInt16 :=
  match text with
  | [] => .error .empty
  | ['+'] => .error .invalidDigit
  | '+' :: digits => (readDigits 0 digits).map UInt16.ofNat
  | digits => (readDigits 0 digits).map UInt16.ofNat

/-- The number that a text spells, if it is a port. -/
def parse (text : String) : Except PortFault UInt16 :=
  read text.toList

end Port
end Startup
end FailOpen
