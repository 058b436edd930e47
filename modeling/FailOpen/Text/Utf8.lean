/-!
# Text as UTF-8 bytes

Encoding of text and decoding of arbitrary byte strings.  `chunks` cuts a byte string into the
characters it holds and the maximal ill-formed parts between them; lossy decoding puts one
replacement character for each such part, strict decoding refuses the whole string when there is
one.  A maximal ill-formed part is the longest start of a well-formed sequence found at that place,
or a single byte when no well-formed sequence begins there.
-/

namespace FailOpen
namespace Text
namespace Utf8

/-- The bytes of a list of characters. -/
def encodeChars (cs : List Char) : List UInt8 :=
  cs.flatMap String.utf8EncodeChar

/-- The bytes of a text. -/
def encode (s : String) : List UInt8 :=
  encodeChars s.toList

/-- One piece of a decoded byte string. -/
inductive Chunk where
  /-- A well-formed sequence, as the character it stands for. -/
  | char (c : Char)
  /-- A maximal ill-formed part. -/
  | invalid (bytes : List UInt8)
  deriving DecidableEq, Repr

/-- What a byte announces when it begins a sequence of more than one byte: how many continuation
bytes follow, and the least and the greatest value of the first of them. -/
structure Lead where
  continuations : Nat
  low : UInt8
  high : UInt8
  deriving DecidableEq, Repr

/-- The leads of the well-formed sequences.  The bounds of the first continuation byte exclude
overlong forms, surrogates and values above U+10FFFF. -/
def lead? (b : UInt8) : Option Lead :=
  if 0xC2 ≤ b ∧ b ≤ 0xDF then some ⟨1, 0x80, 0xBF⟩
  else if b = 0xE0 then some ⟨2, 0xA0, 0xBF⟩
  else if b = 0xED then some ⟨2, 0x80, 0x9F⟩
  else if 0xE1 ≤ b ∧ b ≤ 0xEF then some ⟨2, 0x80, 0xBF⟩
  else if b = 0xF0 then some ⟨3, 0x90, 0xBF⟩
  else if 0xF1 ≤ b ∧ b ≤ 0xF3 then some ⟨3, 0x80, 0xBF⟩
  else if b = 0xF4 then some ⟨3, 0x80, 0x8F⟩
  else none

/-- The bytes allowed after the first continuation byte. -/
def isContinuation (b : UInt8) : Bool :=
  0x80 ≤ b && b ≤ 0xBF

/-- The payload of a continuation byte. -/
def payload (b : UInt8) : Nat :=
  b.toNat % 64

def char2 (a b : UInt8) : Char :=
  Char.ofNat (a.toNat % 32 * 64 + payload b)

def char3 (a b c : UInt8) : Char :=
  Char.ofNat (a.toNat % 16 * 4096 + payload b * 64 + payload c)

def char4 (a b c d : UInt8) : Char :=
  Char.ofNat (a.toNat % 8 * 262144 + payload b * 4096 + payload c * 64 + payload d)

/-- The first piece of the byte string `a :: rest`, and how many bytes of `rest` it takes.  A
sequence that breaks off is an ill-formed part up to the byte that broke it. -/
def first (a : UInt8) (rest : List UInt8) : Chunk × Nat :=
  if a < 0x80 then (.char (Char.ofNat a.toNat), 0)
  else match lead? a, rest with
    | none, _ | _, [] => (.invalid [a], 0)
    | some lead, b :: rest =>
      if ¬ (lead.low ≤ b ∧ b ≤ lead.high) then (.invalid [a], 0)
      else if lead.continuations = 1 then (.char (char2 a b), 1)
      else match rest with
        | [] => (.invalid [a, b], 1)
        | c :: rest =>
          if ¬ isContinuation c then (.invalid [a, b], 1)
          else if lead.continuations = 2 then (.char (char3 a b c), 2)
          else match rest with
            | [] => (.invalid [a, b, c], 2)
            | d :: _ =>
              if ¬ isContinuation d then (.invalid [a, b, c], 2)
              else (.char (char4 a b c d), 3)

/-- The pieces that begin after the first `skip` bytes. -/
def chunksAfter : (skip : Nat) → List UInt8 → List Chunk
  | _, [] => []
  | skip + 1, _ :: rest => chunksAfter skip rest
  | 0, a :: rest => (first a rest).1 :: chunksAfter (first a rest).2 rest

/-- The pieces of a byte string, in order. -/
def chunks (bytes : List UInt8) : List Chunk :=
  chunksAfter 0 bytes

/-- What stands for an ill-formed part. -/
def replacement : Char := '\uFFFD'

/-- The character that lossy decoding writes for a piece. -/
def Chunk.lossy : Chunk → Char
  | .char c => c
  | .invalid _ => replacement

/-- The character of a well-formed piece. -/
def Chunk.char? : Chunk → Option Char
  | .char c => some c
  | .invalid _ => none

/-- Every byte string reads as text, with one replacement character for each ill-formed part. -/
def decodeLossy (bytes : List UInt8) : String :=
  String.ofList ((chunks bytes).map Chunk.lossy)

/-- The text that a byte string encodes, if it encodes one. -/
def decode? (bytes : List UInt8) : Option String :=
  ((chunks bytes).mapM Chunk.char?).map String.ofList

end Utf8
end Text
end FailOpen
