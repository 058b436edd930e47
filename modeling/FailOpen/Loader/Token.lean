/-!
# Tokens in paths

A path may contain tokens that stand for text known to the loader: a dollar sign and a word, either
in braces or not followed by a character that could continue the word.  Other dollar signs stand for
themselves.
-/

namespace FailOpen
namespace Loader

/-- The words of tokens, and the text that each stands for. -/
abbrev Tokens := List (String × String)

/-- Whether a character can continue a word. -/
def isWordChar (c : Char) : Bool :=
  c.isAlphanum || c == '_'

/-- The number of characters behind a dollar sign that spell a word, if they do. -/
def spelled? (word : List Char) (cs : List Char) : Option Nat :=
  if ('\x7b' :: word ++ ['\x7d']).isPrefixOf cs then some (word.length + 2)
  else if word.isPrefixOf cs ∧ !(cs.drop word.length).head?.any isWordChar then some word.length
  else none

/-- The text for the token behind a dollar sign, and the number of characters that spell it. -/
def token? (tokens : Tokens) (cs : List Char) : Option (List Char × Nat) :=
  tokens.findSome? fun (word, text) =>
    (spelled? word.toList cs).map fun length => (text.toList, length)

/-- Replaces tokens, after leaving out some characters. -/
def expandChars (tokens : Tokens) : (skipped : Nat) → List Char → List Char
  | _, [] => []
  | skipped + 1, _ :: cs => expandChars tokens skipped cs
  | 0, c :: cs =>
    match if c = '$' then token? tokens cs else none with
    | some (text, length) => text ++ expandChars tokens length cs
    | none => c :: expandChars tokens 0 cs

/-- A path with the text of its tokens in their place. -/
def expand (tokens : Tokens) (path : String) : String :=
  String.ofList (expandChars tokens 0 path.toList)

theorem expandChars_eq_self {tokens : Tokens} {cs : List Char} (h : '$' ∉ cs) :
    expandChars tokens 0 cs = cs := by
  induction cs with
  | nil => rfl
  | cons c cs ih =>
    rw [List.mem_cons, not_or] at h
    simp [expandChars, Ne.symm h.1, ih h.2]

theorem expand_eq_self {tokens : Tokens} {path : String} (h : '$' ∉ path.toList) :
    expand tokens path = path := by
  rw [expand, expandChars_eq_self h, String.ofList_toList]

end Loader
end FailOpen
