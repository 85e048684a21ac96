import GameShelf.Game
/-!
# Game — which games are the same

Being the same is agreeing in every column, but for the games with a NaN, which are the same as no game (`same_iff`).  So
it is symmetric, and holds of a game and itself unless that has a NaN.
-/
namespace GameShelf

theorem Binary64.same_iff {x y : Binary64} :
    x.same y = true ↔ x.isNaN = false ∧ y.isNaN = false ∧ x.place = y.place := by
  cases hx : x.isNaN <;> cases hy : y.isNaN <;> simp [same, compare?, hx, hy]

namespace Game

/-- Whether a column of the game is no number. -/
def hasNaN (g : Game) : Bool :=
  g.difficulty.isNaN || g.rating.isNaN

/-- What a game has in its columns, with both zeros as one number. -/
def traits (g : Game) : Text × List Int64 × Int × Int :=
  (g.name, [g.id, g.minPlayers, g.maxPlayers, g.minTime, g.maxTime, g.rank, g.year], g.difficulty.place, g.rating.place)

/-- **Two games are the same when neither has a NaN and they agree in every column.** -/
theorem same_iff {a b : Game} : a.same b = true ↔ a.hasNaN = false ∧ b.hasNaN = false ∧ a.traits = b.traits := by
  simp only [same, hasNaN, traits, Bool.and_eq_true, decide_eq_true_eq, Binary64.same_iff, Bool.or_eq_false_iff,
    Prod.mk.injEq, List.cons.injEq]
  grind

theorem same_comm (a b : Game) : a.same b = b.same a := by
  rw [Bool.eq_iff_iff, same_iff, same_iff]
  exact ⟨fun ⟨ha, hb, h⟩ => ⟨hb, ha, h.symm⟩, fun ⟨hb, ha, h⟩ => ⟨ha, hb, h.symm⟩⟩

theorem same_self (g : Game) : g.same g = !g.hasNaN := by
  rw [Bool.eq_iff_iff, same_iff]
  simp

theorem same_of_hasNaN {b : Game} (h : b.hasNaN = true) (a : Game) : a.same b = false := by
  refine Bool.eq_false_iff.2 fun hsame => ?_
  obtain ⟨-, hb, -⟩ := same_iff.1 hsame
  rw [h] at hb
  cases hb

end Game
end GameShelf
