/-!
# JSON values and their compact text

The part of JSON that traces need: texts, truth values, natural numbers, arrays and objects whose
members keep their order.  The compact text has no blanks.  In strings the quote, the backslash and
every character below U+0020 are escaped, by a letter where JSON has one and by four digits
otherwise; every other character stands as it is, so the text of a value is a single line.
-/

namespace FailOpen
namespace Json

inductive Value where
  | text (s : String)
  | flag (b : Bool)
  | number (n : Nat)
  | array (items : List Value)
  | object (members : List (String × Value))

/-- A character inside a JSON string. -/
def escapeChar (c : Char) : List Char :=
  match c with
  | '"' => ['\\', '"']
  | '\\' => ['\\', '\\']
  | '\x08' => ['\\', 'b']
  | '\x0c' => ['\\', 'f']
  | '\n' => ['\\', 'n']
  | '\r' => ['\\', 'r']
  | '\t' => ['\\', 't']
  | c =>
    if c.toNat < 0x20 then
      ['\\', 'u', '0', '0', Nat.digitChar (c.toNat / 16), Nat.digitChar (c.toNat % 16)]
    else [c]

/-- A JSON string. -/
def escapeText (s : String) : List Char :=
  '"' :: s.toList.flatMap escapeChar ++ ['"']

/-- The digits of a number. -/
def digits (n : Nat) : List Char :=
  Nat.toDigits 10 n

mutual

/-- The compact text of a value. -/
def Value.chars : Value → List Char
  | .text s => escapeText s
  | .flag true => ['t', 'r', 'u', 'e']
  | .flag false => ['f', 'a', 'l', 's', 'e']
  | .number n => digits n
  | .array items => '[' :: Value.itemChars items ++ [']']
  | .object members => '\x7b' :: Value.memberChars members ++ ['\x7d']

/-- The items of an array, separated by commas. -/
def Value.itemChars : List Value → List Char
  | [] => []
  | [item] => item.chars
  | item :: rest => item.chars ++ ',' :: Value.itemChars rest

/-- The members of an object, separated by commas. -/
def Value.memberChars : List (String × Value) → List Char
  | [] => []
  | [(name, value)] => escapeText name ++ ':' :: value.chars
  | (name, value) :: rest =>
    escapeText name ++ ':' :: value.chars ++ ',' :: Value.memberChars rest

end

/-- The compact text of a value. -/
def Value.compact (value : Value) : String :=
  String.ofList value.chars

end Json
end FailOpen
