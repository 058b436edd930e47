/-!
# Text cut at a mark

The pieces of a text between the occurrences of one character.  There is always at least one piece,
and putting the mark between the pieces gives the text back.
-/

namespace FailOpen
namespace Text

/-- Puts a character in front of the first piece. -/
def consFirst (c : Char) : List (List Char) → List (List Char)
  | [] => [[c]]
  | piece :: pieces => (c :: piece) :: pieces

/-- The pieces of a list of characters between the marks. -/
def splitChars (mark : Char) (cs : List Char) : List (List Char) :=
  cs.foldr (fun c pieces => if c = mark then [] :: pieces else consFirst c pieces) [[]]

theorem splitChars_cons (mark c : Char) (cs : List Char) :
    splitChars mark (c :: cs) =
      if c = mark then [] :: splitChars mark cs else consFirst c (splitChars mark cs) :=
  rfl

theorem splitChars_ne_nil (mark : Char) (cs : List Char) : splitChars mark cs ≠ [] := by
  cases cs with
  | nil => simp [splitChars]
  | cons c cs =>
    rw [splitChars_cons]
    split
    · simp
    · cases splitChars mark cs <;> simp [consFirst]

theorem intercalate_splitChars (mark : Char) (cs : List Char) :
    [mark].intercalate (splitChars mark cs) = cs := by
  induction cs with
  | nil => rfl
  | cons c cs ih =>
    rw [splitChars_cons]
    cases h : splitChars mark cs with
    | nil => exact absurd h (splitChars_ne_nil mark cs)
    | cons piece pieces =>
      rw [h] at ih
      split
      next hc => rw [List.intercalate_cons_cons, ih, hc]; rfl
      next =>
        cases pieces with
        | nil => simpa [consFirst] using ih
        | cons next pieces =>
          rw [List.intercalate_cons_cons] at ih
          simpa [consFirst, List.intercalate_cons_cons] using ih

/-- The pieces of a text between the marks. -/
def split (mark : Char) (s : String) : List String :=
  (splitChars mark s.toList).map String.ofList

end Text
end FailOpen
