import FailOpen.Text.Hex

/-!
# Scanning JSON text

The lexical level of JSON, read from left to right over a list of characters.  Each scanner returns
what it found together with the rest of the text, or the first fault: the text ends where more is
needed, or the next character is wrong.  Strings are scanned with one of two escape rules: text that
is kept must pair its surrogates, text that is skipped need not.
-/

namespace FailOpen
namespace Json

/-- Why a text is no JSON document. -/
inductive ScanFault where
  /-- The text ends too early. -/
  | endOfText
  /-- A character that cannot stand where it stands, or a number beyond all bounds. -/
  | malformed
  deriving DecidableEq, Repr

def isBlank (c : Char) : Bool :=
  c = ' ' || c = '\n' || c = '\t' || c = '\r'

def skipBlanks (cs : List Char) : List Char :=
  cs.dropWhile isBlank

/-- The fault of a text that goes on with something else, or not at all. -/
def unexpectedAt : List Char → ScanFault
  | [] => .endOfText
  | _ :: _ => .malformed

/-- The rest of a text after the given characters. -/
def literal : (expected : List Char) → List Char → Except ScanFault (List Char)
  | [], cs => .ok cs
  | _ :: _, [] => .error .endOfText
  | e :: expected, c :: cs => if e = c then literal expected cs else .error .malformed

/-! ## Strings -/

/-- The bytes that a list of characters takes. -/
def byteCount (cs : List Char) : Nat :=
  cs.foldl (fun count c => count + c.utf8Size) 0

/-- The number that the next four characters spell.  The text counts as too short only if it has
fewer than four bytes left. -/
def hex4 (cs : List Char) : Except ScanFault Nat :=
  match cs with
  | a :: b :: c :: d :: _ =>
    match Text.Hex.digit? a, Text.Hex.digit? b, Text.Hex.digit? c, Text.Hex.digit? d with
    | some a, some b, some c, some d => .ok (((a * 16 + b) * 16 + c) * 16 + d)
    | _, _, _, _ => .error .malformed
  | short => if byteCount short < 4 then .error .endOfText else .error .malformed

def isLeadingSurrogate (n : Nat) : Bool :=
  0xD800 ≤ n && n ≤ 0xDBFF

def isTrailingSurrogate (n : Nat) : Bool :=
  0xDC00 ≤ n && n ≤ 0xDFFF

/-- The character of a surrogate pair. -/
def pairedChar (leading trailing : Nat) : Char :=
  Char.ofNat ((leading - 0xD800) * 1024 + (trailing - 0xDC00) + 0x10000)

/-- The trailing surrogate that must follow a leading one, written as an escape of its own. -/
def trailingSurrogate (cs : List Char) : Except ScanFault Nat := do
  let cs ← literal ['\\', 'u'] cs
  let n ← hex4 cs
  if isTrailingSurrogate n then return n else throw .malformed

/-- The meaning of an escape that is a single letter or sign. -/
def simpleEscape? (c : Char) : Option Char :=
  match c with
  | '"' => some '"'
  | '\\' => some '\\'
  | '/' => some '/'
  | 'b' => some '\x08'
  | 'f' => some '\x0c'
  | 'n' => some '\n'
  | 'r' => some '\r'
  | 't' => some '\t'
  | _ => none

/-- The meaning of the escape whose text follows a backslash, and how many characters it takes. -/
abbrev EscapeRule := List Char → Except ScanFault (Char × Nat)

/-- Escapes of text that is kept: surrogates stand in pairs. -/
def pairedEscape : EscapeRule
  | [] => .error .endOfText
  | 'u' :: cs => do
    let n ← hex4 cs
    if isTrailingSurrogate n then throw .malformed
    else if isLeadingSurrogate n then return (pairedChar n (← trailingSurrogate (cs.drop 4)), 11)
    else return (Char.ofNat n, 5)
  | c :: _ =>
    match simpleEscape? c with
    | some meaning => .ok (meaning, 1)
    | none => .error .malformed

/-- Escapes of text that is skipped: any four digits will do, and the meaning is not used. -/
def looseEscape : EscapeRule
  | [] => .error .endOfText
  | 'u' :: cs => do
    let _ ← hex4 cs
    return ('\x00', 5)
  | c :: _ =>
    match simpleEscape? c with
    | some meaning => .ok (meaning, 1)
    | none => .error .malformed

/-- The string whose text begins after the next `skip` characters, up to its closing quote. -/
def stringAfter (rule : EscapeRule) :
    (skip : Nat) → List Char → Except ScanFault (List Char × List Char)
  | _, [] => .error .endOfText
  | skip + 1, _ :: cs => stringAfter rule skip cs
  | 0, c :: cs =>
    if c = '"' then .ok ([], cs)
    else if c = '\\' then
      match rule cs with
      | .error fault => .error fault
      | .ok (meaning, length) =>
        match stringAfter rule length cs with
        | .error fault => .error fault
        | .ok (text, rest) => .ok (meaning :: text, rest)
    else if c.toNat < 0x20 then .error .malformed
    else
      match stringAfter rule 0 cs with
      | .error fault => .error fault
      | .ok (text, rest) => .ok (c :: text, rest)

/-- The string that is kept, from after its opening quote. -/
def scanString (cs : List Char) : Except ScanFault (List Char × List Char) :=
  stringAfter pairedEscape 0 cs

/-- The rest of the text after a string that is skipped, from after its opening quote. -/
def skipString (cs : List Char) : Except ScanFault (List Char) :=
  (stringAfter looseEscape 0 cs).map Prod.snd

/-! ## Numbers -/

def isDigit (c : Char) : Bool :=
  '0' ≤ c && c ≤ '9'

/-- The parts of a number as it is written. -/
structure Numeral where
  negative : Bool
  whole : List Char
  fraction : Option (List Char)
  /-- Whether the exponent is negative, and its digits. -/
  exponent : Option (Bool × List Char)
  deriving DecidableEq, Repr

/-- One or more digits.  `atEnd` is the fault when the text ends instead. -/
def digits1 (atEnd : ScanFault) (cs : List Char) : Except ScanFault (List Char × List Char) :=
  match cs with
  | [] => .error atEnd
  | c :: _ =>
    if isDigit c then .ok (cs.takeWhile isDigit, cs.dropWhile isDigit) else .error .malformed

/-- The digits before the point: a leading zero stands alone. -/
def wholeDigits (atEnd : ScanFault) (cs : List Char) :
    Except ScanFault (List Char × List Char) := do
  let (digits, rest) ← digits1 atEnd cs
  match digits with
  | '0' :: _ :: _ => throw .malformed
  | _ => return (digits, rest)

/-- The part after a decimal point, if there is one. -/
def fractionDigits (atEnd : ScanFault) :
    List Char → Except ScanFault (Option (List Char) × List Char)
  | '.' :: cs => do
    let (digits, rest) ← digits1 atEnd cs
    return (some digits, rest)
  | cs => .ok (none, cs)

/-- The sign of an exponent. -/
def exponentSign : List Char → Bool × List Char
  | '+' :: cs => (false, cs)
  | '-' :: cs => (true, cs)
  | cs => (false, cs)

/-- The exponent, if there is one. -/
def exponentDigits (atEnd : ScanFault) (cs : List Char) :
    Except ScanFault (Option (Bool × List Char) × List Char) :=
  match cs with
  | c :: cs' =>
    if c = 'e' ∨ c = 'E' then do
      let (digits, rest) ← digits1 atEnd (exponentSign cs').2
      return (some ((exponentSign cs').1, digits), rest)
    else .ok (none, cs)
  | [] => .ok (none, [])

/-- A number without its minus sign. -/
def unsignedNumeral (atEnd : ScanFault) (negative : Bool) (cs : List Char) :
    Except ScanFault (Numeral × List Char) := do
  let (whole, cs) ← wholeDigits atEnd cs
  let (fraction, cs) ← fractionDigits atEnd cs
  let (exponent, cs) ← exponentDigits atEnd cs
  return ({ negative, whole, fraction, exponent }, cs)

/-- A number. -/
def numeral (atEnd : ScanFault) : List Char → Except ScanFault (Numeral × List Char)
  | '-' :: cs => unsignedNumeral atEnd true cs
  | cs => unsignedNumeral atEnd false cs

/-- Whether a character begins a number. -/
def beginsNumber (c : Char) : Bool :=
  c = '-' || isDigit c

/-! ## Values that are skipped -/

/-- A container that is still open. -/
inductive Frame where
  | array
  | object
  deriving DecidableEq, Repr

/-- What may come next while values are skipped. -/
inductive Expect where
  /-- A value. -/
  | value
  /-- What follows a value: a comma or the end of the innermost container. -/
  | more
  deriving DecidableEq, Repr

/-- The rest of the text after a skipped scalar. -/
def skipScalar (cs : List Char) : Except ScanFault (List Char) :=
  match cs with
  | [] => .error .endOfText
  | 'n' :: cs => literal ['u', 'l', 'l'] cs
  | 't' :: cs => literal ['r', 'u', 'e'] cs
  | 'f' :: cs => literal ['a', 'l', 's', 'e'] cs
  | '"' :: cs => skipString cs
  | c :: _ =>
    if beginsNumber c then (numeral .malformed cs).map Prod.snd else .error .malformed

/-- The rest of the text after a skipped member name and its colon. -/
def skipName (cs : List Char) : Except ScanFault (List Char) :=
  match skipBlanks cs with
  | '"' :: cs => do
    let cs ← skipString cs
    literal [':'] (skipBlanks cs)
  | cs => .error (unexpectedAt cs)

/-- Skips what is still open: the value or continuation that is expected next, and then every
container of the stack.  Each step takes at least one character, so a step for each character and
one more are always enough. -/
def skipOpen : (steps : Nat) → Expect → List Frame → List Char → Except ScanFault (List Char)
  | 0, _, _, _ => .error .endOfText
  | _ + 1, .more, [], cs => .ok cs
  | steps + 1, .more, frame :: stack, cs =>
    match frame, skipBlanks cs with
    | .array, ',' :: cs => skipOpen steps .value (.array :: stack) cs
    | .object, ',' :: cs => do
      let cs ← skipName cs
      skipOpen steps .value (.object :: stack) cs
    | .array, ']' :: cs => skipOpen steps .more stack cs
    | .object, '\x7d' :: cs => skipOpen steps .more stack cs
    | _, cs => .error (unexpectedAt cs)
  | steps + 1, .value, stack, cs =>
    match skipBlanks cs with
    | '[' :: cs =>
      match skipBlanks cs with
      | [] => .error .endOfText
      | ']' :: cs => skipOpen steps .more stack cs
      | cs => skipOpen steps .value (.array :: stack) cs
    | '\x7b' :: cs =>
      match skipBlanks cs with
      | [] => .error .endOfText
      | '\x7d' :: cs => skipOpen steps .more stack cs
      | cs => do
        let cs ← skipName cs
        skipOpen steps .value (.object :: stack) cs
    | cs => do
      let cs ← skipScalar cs
      skipOpen steps .more stack cs

/-- The rest of the text after one value of any kind and any depth. -/
def skipValue (cs : List Char) : Except ScanFault (List Char) :=
  skipOpen (cs.length + 1) .value [] cs

end Json
end FailOpen
