/-!
# Point updates

A function with one of its values replaced.  Everything in a process that is looked up by a name is
kept as a function, and changes by point updates.
-/

namespace FailOpen

/-- Replaces one value of a function. -/
def update {α β : Type} [DecidableEq α] (f : α → β) (a : α) (b : β) : α → β :=
  fun x => if x = a then b else f x

@[simp] theorem update_same {α β : Type} [DecidableEq α] (f : α → β) (a : α) (b : β) :
    update f a b a = b := by
  simp [update]

theorem update_eq_self {α β : Type} [DecidableEq α] (f : α → β) (a : α) :
    update f a (f a) = f := by
  funext x
  by_cases h : x = a <;> simp [update, h]

theorem update_of_ne {α β : Type} [DecidableEq α] (f : α → β) {a x : α} (b : β) (h : x ≠ a) :
    update f a b x = f x := by
  simp [update, h]

end FailOpen
