/-!
# Except — results taken apart

What succeeds in two steps has succeeded in each of them.
-/
namespace GameShelf
namespace Except

variable {ε α β : Type} {result : Except ε α} {b : β}

theorem bind_eq_ok_iff {f : α → Except ε β} : result >>= f = .ok b ↔ ∃ a, result = .ok a ∧ f a = .ok b := by
  cases result <;> simp [bind, Except.bind]

theorem map_eq_ok_iff {f : α → β} : result.map f = .ok b ↔ ∃ a, result = .ok a ∧ f a = b := by
  cases result <;> simp [Except.map]

end Except
end GameShelf
