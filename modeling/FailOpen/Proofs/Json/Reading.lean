import FailOpen.Json.Number
import FailOpen.Proofs.Json.Printed

/-!
# Reading documents

What can be read from a document: a text, a truth value, a natural number, the items of an array,
and the member of an object by its name.  A member counts only if no other one has the same name.
Each reader gives back what was written, by the laws at the end.
-/

namespace FailOpen
namespace Json

/-- The text that pieces make together. -/
def Piece.text? (pieces : List Piece) : Option String :=
  String.ofList <$> decode pieces

namespace Tree

def text? : Tree → Option String
  | .text pieces => Piece.text? pieces
  | _ => none

def flag? : Tree → Option Bool
  | .flag b => some b
  | _ => none

/-- A number without sign, fraction and exponent. -/
def natural? : Tree → Option Nat
  | .number ⟨false, whole, none, none⟩ => some (digitsValue whole)
  | _ => none

/-- A natural number that fits sixteen bits. -/
def word? (tree : Tree) : Option UInt16 := do
  let n ← tree.natural?
  if n < UInt16.size then some (.ofNat n) else none

def items? : Tree → Option (List Tree)
  | .array items => some items
  | _ => none

/-- The value of the only member with the given name. -/
def member? (tree : Tree) (name : String) : Option Tree :=
  match tree with
  | .object members =>
    match members.filter fun member => Piece.text? member.1 = some name with
    | [member] => some member.2
    | _ => none
  | _ => none

end Tree

namespace Value

theorem text?_map_pieceOf (s : String) : Piece.text? (s.toList.map pieceOf) = some s := by
  rw [Piece.text?, decode_map_pieceOf, Option.map_eq_map, Option.map_some, String.ofList_toList]

@[simp] theorem text?_tree (s : String) : (Value.text s).tree.text? = some s :=
  text?_map_pieceOf s

@[simp] theorem flag?_tree (b : Bool) : (Value.flag b).tree.flag? = some b := by
  rw [tree, Tree.flag?]

@[simp] theorem word?_tree (n : UInt16) : (Value.number n.toNat).tree.word? = some n := by
  have hnatural : (Value.number n.toNat).tree.natural? = some n.toNat := by
    rw [tree, Tree.natural?, digitsValue_digits]
  rw [Tree.word?, hnatural]
  show (if n.toNat < UInt16.size then some (UInt16.ofNat n.toNat) else none) = some n
  rw [if_pos n.toNat_lt_size, UInt16.ofNat_toNat]

@[simp] theorem items?_tree (items : List Value) :
    (Value.array items).tree.items? = some (items.map tree) := by
  rw [tree, Tree.items?, trees_eq_map]

theorem memberTrees_eq_map (members : List (String × Value)) :
    memberTrees members =
      members.map fun member => (member.1.toList.map pieceOf, member.2.tree) := by
  induction members with
  | nil => rfl
  | cons member rest ih =>
    obtain ⟨name, value⟩ := member
    rw [memberTrees, ih, List.map_cons]

/-- A member is found by its name if no other one has this name. -/
theorem member?_tree (members : List (String × Value)) (name : String) {value : Value}
    (h : members.filter (fun member => member.1 = name) = [(name, value)]) :
    (Value.object members).tree.member? name = some value.tree := by
  have hfilter : (memberTrees members).filter (fun member => Piece.text? member.1 = some name) =
      [(name.toList.map pieceOf, value.tree)] := by
    rw [memberTrees_eq_map, List.filter_map]
    simp only [Function.comp_def, text?_map_pieceOf, Option.some.injEq]
    rw [h]
    rfl
  rw [tree, Tree.member?, hfilter]

end Value
end Json
end FailOpen
