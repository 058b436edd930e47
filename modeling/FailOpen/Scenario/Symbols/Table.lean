/-!
# Tables of symbols

Long lists of names, grouped by their first character, so that few of them have to be compared with
a name that is sought.
-/

namespace FailOpen
namespace Scenario

/-- Names by their first character. -/
abbrev SymbolTable := List (Char × List String)

/-- Whether a table lists a name. -/
def SymbolTable.contains (table : SymbolTable) (name : String) : Bool :=
  match name.toList with
  | [] => false
  | c :: _ => (table.lookup c).any (name ∈ ·)

theorem SymbolTable.contains_iff {table : SymbolTable} {name : String} :
    table.contains name = true ↔
      ∃ c names, name.toList.head? = some c ∧ table.lookup c = some names ∧ name ∈ names := by
  rw [contains]
  cases name.toList with
  | nil => simp
  | cons c cs => simp [Option.any_eq_true]

end Scenario
end FailOpen
