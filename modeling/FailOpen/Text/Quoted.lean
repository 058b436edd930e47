import FailOpen.Text.Hex
import FailOpen.Text.Invisible
import FailOpen.Text.Utf8

/-!
# Quoted text

Text shown between double quotes on one line.  Two spellings are needed: `quote` for text and
`quoteBytes` for byte strings that are usually, but not certainly, UTF-8.  They differ in the
single quote, which only the second escapes, and in the control characters of ASCII, which the
second writes as bytes.  Characters without a visible form are written by their number.
-/

namespace FailOpen
namespace Text

/-- A character written by its number. -/
def numbered (c : Char) : List Char :=
  ['\\', 'u', '\x7b'] ++ Hex.ofNat c.toNat ++ ['\x7d']

/-- A byte written by its number. -/
def numberedByte (b : UInt8) : List Char :=
  ['\\', 'x'] ++ Hex.ofByte b

/-- Whether a character shows as it stands: ASCII from the space to the tilde, and every visible
character beyond ASCII. -/
def isVisible (c : Char) : Bool :=
  if c.toNat < 0x7F then 0x20 ≤ c.toNat else !isInvisible c

/-- A character of quoted text. -/
def quoteChar (c : Char) : List Char :=
  match c with
  | '\x00' => ['\\', '0']
  | '\t' => ['\\', 't']
  | '\r' => ['\\', 'r']
  | '\n' => ['\\', 'n']
  | '"' => ['\\', '"']
  | '\\' => ['\\', '\\']
  | c => if isVisible c then [c] else numbered c

/-- A text between double quotes. -/
def quote (s : String) : String :=
  String.ofList (['"'] ++ s.toList.flatMap quoteChar ++ ['"'])

/-- A character of a quoted byte string. -/
def quoteByteChar (c : Char) : List Char :=
  match c with
  | '\x00' => ['\\', '0']
  | '\t' => ['\\', 't']
  | '\r' => ['\\', 'r']
  | '\n' => ['\\', 'n']
  | '"' => ['\\', '"']
  | '\'' => ['\\', '\'']
  | '\\' => ['\\', '\\']
  | c =>
    if isVisible c then [c]
    else if c.toNat < 0x80 then numberedByte c.toNat.toUInt8
    else numbered c

/-- A piece of a quoted byte string: ill-formed parts are written byte by byte. -/
def quoteChunk : Utf8.Chunk → List Char
  | .char c => quoteByteChar c
  | .invalid bytes => bytes.flatMap numberedByte

/-- A byte string between double quotes. -/
def quoteBytes (bytes : List UInt8) : String :=
  String.ofList (['"'] ++ (Utf8.chunks bytes).flatMap quoteChunk ++ ['"'])

end Text
end FailOpen
