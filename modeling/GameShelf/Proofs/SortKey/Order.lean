import GameShelf.Proofs.Number.Binary64
import GameShelf.Proofs.SortKey
/-!
# Order — every column puts any games in order

The values of a column are of one kind, so any two of them compare (`compare?_value`), and the order is total and
transitive although games may tie in it (`order_preorder`).
-/
namespace GameShelf
namespace Column

open Std (TransCmp OrientedCmp ReflCmp)

variable {c : Column} {a b : Game} {x y : Binary64}

theorem compare?_value (c : Column) (a b : Game) : Value.compare? (a.value c) (b.value c) = some (c.order a b) := by
  cases c <;> rfl

theorem order_of_real (hx : a.value c = .real x) (hy : b.value c = .real y) : c.order a b = Binary64.order x y := by
  rw [order, hx, hy]
  rfl

/-- **A column orders all games**: a game ties with itself, two games compare the other way round when they change places,
and what is not above a game that is not above a third is not above the third.  So to tie is an equivalence, and games that
tie compare alike with all others.  Any two values of the column have an order of their own.  Reals stand as the numbers
that their bits mean, negative zero below zero, and every NaN, the same for all of them, above every number. -/
theorem order_preorder (c : Column) :
    (∀ a, c.order a a = .eq) ∧
    (∀ a b, c.order b a = (c.order a b).swap) ∧
    (∀ a b d, c.order a b ≠ .gt → c.order b d ≠ .gt → c.order a d ≠ .gt) ∧
    Equivalence (fun a b => c.order a b = .eq) ∧
    (∀ a a' b b', c.order a a' = .eq → c.order b b' = .eq → c.order a b = c.order a' b') ∧
    (∀ a b, Value.compare? (a.value c) (b.value c) = some (c.order a b)) ∧
    ∀ a b x y, a.value c = .real x → b.value c = .real y →
      (x.number? = none → y.number? = none → c.order a b = .eq) ∧
      (∀ q, x.number? = none → y.number? = some q → c.order a b = .gt) ∧
      ∀ p q, x.number? = some p → y.number? = some q →
        (c.order a b = .lt ↔ p < q ∨ x = .ofSignMagnitude true 0 ∧ y = .zero) ∧ (c.order a b = .eq ↔ x = y) := by
  refine ⟨fun a => ReflCmp.compare_self, fun a b => OrientedCmp.eq_swap, fun a b d hab hbd => ?_, ?_,
    fun a a' b b' ha hb => ?_, compare?_value c, fun a b x y hx hy => ?_⟩
  · exact Ordering.isLE_iff_ne_gt.1
      (TransCmp.isLE_trans (Ordering.isLE_iff_ne_gt.2 hab) (Ordering.isLE_iff_ne_gt.2 hbd))
  · exact ⟨fun a => ReflCmp.compare_self, OrientedCmp.eq_symm, TransCmp.eq_trans⟩
  · rw [TransCmp.congr_left ha, TransCmp.congr_right hb]
  · rw [order_of_real hx hy]
    refine ⟨fun hp hq => ?_, fun q hp hq => ?_, fun p q hp hq => ?_⟩
    · exact Binary64.order_of_isNaN (Binary64.number?_eq_none_iff.1 hp) (Binary64.number?_eq_none_iff.1 hq)
    · exact Binary64.order_isNaN_number (Binary64.number?_eq_none_iff.1 hp) (Binary64.number?_eq_some_iff.1 hq).1
    · exact ⟨Binary64.order_eq_lt_iff hp hq, Binary64.order_eq_eq_iff hp hq⟩

/-- NaNs of both signs, which tie, above infinity, and the zeros, which do not tie although they are one number. -/
theorem order_preorder_rating :
    let rated (x : Binary64) : Game := { Game.ofName "Go".toList 1 with rating := x }
    let nan : Binary64 := .ofSignMagnitude false Binary64.quietNaN
    let odd : Binary64 := .ofSignMagnitude true Binary64.quietNaN
    let infinity : Binary64 := .ofSignMagnitude false Binary64.infinite
    let flat : Binary64 := .ofSignMagnitude true 0
    (∀ x, (rated x).value .rating = .real x) ∧
    (nan.number? = none ∧ odd.number? = none ∧ rating.order (rated nan) (rated odd) = .eq) ∧
    (infinity.number? = some ⊤ ∧ rating.order (rated nan) (rated infinity) = .gt ∧
      rating.order (rated odd) (rated infinity) = .gt) ∧
    (flat.number? = some ((0 : ℚ) : WithTop ℚ) ∧ Binary64.zero.number? = some ((0 : ℚ) : WithTop ℚ) ∧
      rating.order (rated flat) (rated .zero) = .lt) ∧
    (rating.order (rated flat) (rated infinity) ≠ .gt ∧ rating.order (rated infinity) (rated nan) ≠ .gt ∧
      rating.order (rated flat) (rated nan) ≠ .gt) := by
  intro rated nan odd infinity flat
  obtain ⟨hself, -, htrans, -, hties, -, hreal⟩ := order_preorder .rating
  have hvalue : ∀ x, (rated x).value .rating = .real x := fun x => rfl
  have hnan : nan.number? = none := by decide +kernel
  have hodd : odd.number? = none := by decide +kernel
  have hinfinity : infinity.number? = some ⊤ := by decide +kernel
  have hflat : flat.number? = some ((0 : ℚ) : WithTop ℚ) := by decide +kernel
  have hzero : Binary64.zero.number? = some ((0 : ℚ) : WithTop ℚ) := by decide +kernel
  have hlow : rating.order (rated flat) (rated infinity) ≠ .gt := by decide +kernel
  have hhigh : rating.order (rated infinity) (rated nan) ≠ .gt := by decide +kernel
  have htie := (hreal _ _ _ _ (hvalue nan) (hvalue odd)).1 hnan hodd
  have hpast := (hreal _ _ _ _ (hvalue nan) (hvalue infinity)).2.1 _ hnan hinfinity
  have hzeros := ((hreal _ _ _ _ (hvalue flat) (hvalue .zero)).2.2 _ _ hflat hzero).1.2 (.inr ⟨rfl, rfl⟩)
  exact ⟨hvalue, ⟨hnan, hodd, htie⟩, ⟨hinfinity, hpast, (hties _ _ _ _ htie (hself _)).symm.trans hpast⟩,
    ⟨hflat, hzero, hzeros⟩, hlow, hhigh, htrans _ _ _ hlow hhigh⟩

end Column
end GameShelf
