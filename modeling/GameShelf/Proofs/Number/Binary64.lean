import GameShelf.Number.Binary64
import Mathlib.Algebra.Order.Field.Power
import Mathlib.Algebra.Order.Field.Rat
import Mathlib.Algebra.Order.Group.Int
import Mathlib.Data.Int.Cast.Lemmas
import Mathlib.Order.Monotone.Odd
import Mathlib.Order.WithBot
import Mathlib.Tactic.NormNum
import Mathlib.Tactic.Ring
/-!
# Binary64 — which number the bits stand for

A finite number is a significand of 53 bits times a power of two.  It grows with the magnitude, for behind the last
significand of one power comes the first one of the next (`size_strictMono`).  So the places, which are whole numbers, stand
in the order of the numbers (`number_lt_iff`), and the order for sorting is that of the numbers, with negative zero just below
zero (`order_eq_lt_iff`), and behind them every NaN (`order_isNaN_number`).
-/
namespace GameShelf
namespace Binary64

/-! ## The number at a place -/

/-- The significand of a magnitude.  Its first bit is a one that is not written, save in the numbers too small for that. -/
def significand (magnitude : Nat) : Nat :=
  if magnitude < 2 ^ 52 then magnitude else 2 ^ 52 + magnitude % 2 ^ 52

/-- The power of two that the significand counts.  The smallest numbers share theirs with the next ones. -/
def exponent (magnitude : Nat) : Int :=
  max 1 (magnitude / 2 ^ 52 : Nat) - 1075

/-- The finite number of a magnitude. -/
def size (magnitude : Nat) : ℚ :=
  significand magnitude * 2 ^ exponent magnitude

/-- The number at a place, counted from zero in both directions: the finite ones, and infinity behind them. -/
def numberAt (place : Int) : WithBot (WithTop ℚ) :=
  if place = infinite then ⊤
  else if place = -infinite then ⊥
  else ((place.sign * size place.natAbs : ℚ) : WithTop ℚ)

/-- The number that the bits stand for; a NaN stands for none. -/
def number? (x : Binary64) : Option (WithBot (WithTop ℚ)) :=
  if x.isNaN then none else some (numberAt x.place)

example : number? ⟨0xC014000000000000⟩ = some ((-5 : ℚ) : WithTop ℚ) := by decide +kernel

example : number? ⟨1⟩ = some ((1 / 2 ^ 1074 : ℚ) : WithTop ℚ) := by decide +kernel

/-- The next magnitude has the next significand, or, after the last one, the first one of the next exponent. -/
theorem significand_succ (m : Nat) :
    significand (m + 1) = significand m + 1 ∧ exponent (m + 1) = exponent m ∨
      significand m + 1 = 2 ^ 53 ∧ significand (m + 1) = 2 ^ 52 ∧ exponent (m + 1) = exponent m + 1 := by
  unfold significand exponent
  split <;> split <;> omega

theorem size_strictMono : StrictMono size := by
  refine strictMono_nat_of_lt_succ fun m => ?_
  have hunit : (0 : ℚ) < 2 ^ exponent m := zpow_pos (by norm_num) _
  rcases significand_succ m with ⟨hs, he⟩ | ⟨hlast, hs, he⟩
  · rw [size, size, hs, he, Nat.cast_add_one]
    exact mul_lt_mul_of_pos_right (lt_add_one _) hunit
  · have hlt : (significand m : ℚ) < (2 ^ 53 : ℕ) := Nat.cast_lt.2 ((Nat.lt_succ_self _).trans_eq hlast)
    calc size m < (2 ^ 53 : ℕ) * 2 ^ exponent m := mul_lt_mul_of_pos_right hlt hunit
      _ = (2 ^ 52 : ℕ) * 2 ^ (exponent m + 1) := by
        rw [zpow_add_one₀ (by norm_num), Nat.cast_pow, Nat.cast_pow]
        ring
      _ = size (m + 1) := by rw [size, hs, he]

theorem size_zero : size 0 = 0 := by
  simp [size, significand]

theorem signedSize_lt {p q : Int} (hpq : p < q) : (p.sign * size p.natAbs : ℚ) < q.sign * size q.natAbs := by
  have hmono : StrictMono fun place : Int => (place.sign * size place.natAbs : ℚ) := by
    refine strictMono_of_odd_strictMonoOn_nonneg (fun place => by simp) fun a (ha : 0 ≤ a) b (hb : 0 ≤ b) hab => ?_
    obtain ⟨m, rfl⟩ := Int.eq_ofNat_of_zero_le ha
    obtain ⟨n, rfl⟩ := Int.eq_ofNat_of_zero_le hb
    have hsize : ∀ k : Nat, ((k : Int).sign * size k : ℚ) = size k := fun k => by
      cases k with
      | zero => rw [size_zero, mul_zero]
      | succ k => rw [Int.sign_eq_one_of_pos (Int.natCast_pos.2 k.succ_pos), Int.cast_one, one_mul]
    simpa only [Int.natAbs_natCast, hsize] using size_strictMono (Int.ofNat_lt.1 hab)
  exact hmono hpq

/-- **The numbers go up with their places.** -/
theorem numberAt_lt {p q : Int} (hp : p.natAbs ≤ infinite) (hq : q.natAbs ≤ infinite) (hpq : p < q) :
    numberAt p < numberAt q := by
  have hp_top : p ≠ infinite := by omega
  have hq_bot : q ≠ -infinite := by omega
  rw [numberAt, if_neg hp_top, numberAt, if_neg hq_bot]
  split
  · split
    · exact bot_lt_top
    · exact WithBot.bot_lt_coe _
  · split
    · exact WithBot.coe_lt_coe.2 (WithTop.coe_lt_top _)
    · exact WithBot.coe_lt_coe.2 (WithTop.coe_lt_coe.2 (signedSize_lt hpq))

/-! ## The order for sorting -/

variable {x y : Binary64} {p q : WithBot (WithTop ℚ)}

theorem number?_eq_none_iff : x.number? = none ↔ x.isNaN = true := by
  rw [number?]
  split <;> simp [*]

theorem number?_eq_some_iff : x.number? = some p ↔ x.isNaN = false ∧ numberAt x.place = p := by
  rw [number?]
  split <;> simp [*]

theorem natAbs_place (x : Binary64) : x.place.natAbs = x.magnitude := by
  unfold place
  split <;> simp

theorem number_lt_iff (hp : x.number? = some p) (hq : y.number? = some q) : p < q ↔ x.place < y.place := by
  obtain ⟨hx, rfl⟩ := number?_eq_some_iff.1 hp
  obtain ⟨hy, rfl⟩ := number?_eq_some_iff.1 hq
  have hle : ∀ z : Binary64, z.isNaN = false → z.place.natAbs ≤ infinite := fun z hz => by
    rw [natAbs_place]
    simpa [isNaN] using hz
  have hmono : StrictMonoOn numberAt { place | place.natAbs ≤ infinite } := fun a ha b hb => numberAt_lt ha hb
  exact hmono.lt_iff_lt (hle x hx) (hle y hy)

theorem eq_of_isNegative_of_magnitude (hsign : x.isNegative = y.isNegative) (hmagnitude : x.magnitude = y.magnitude) :
    x = y := by
  have hbits : x.bits.toNat = y.bits.toNat := by
    have hx := x.bits.toNat_lt
    have hy := y.bits.toNat_lt
    have hsign : signBit ≤ x.bits.toNat ↔ signBit ≤ y.bits.toNat := decide_eq_decide.1 hsign
    simp only [magnitude, signBit] at hsign hmagnitude
    omega
  exact congrArg Binary64.mk (UInt64.toNat_inj.1 hbits)

theorem eq_zero_iff : x = zero ↔ x.isNegative = false ∧ x.magnitude = 0 :=
  ⟨fun h => h ▸ by decide, fun ⟨hs, hm⟩ => eq_of_isNegative_of_magnitude (hs.trans (by decide)) (hm.trans (by decide))⟩

theorem eq_negativeZero_iff : x = ofSignMagnitude true 0 ↔ x.isNegative = true ∧ x.magnitude = 0 :=
  ⟨fun h => h ▸ by decide, fun ⟨hs, hm⟩ => eq_of_isNegative_of_magnitude (hs.trans (by decide)) (hm.trans (by decide))⟩

/-- A rank is a place, with the places below zero and that of negative zero one further down. -/
theorem rank_lt_iff (hx : x.isNaN = false) (hy : y.isNaN = false) :
    x.rank < y.rank ↔ x.place < y.place ∨ x = ofSignMagnitude true 0 ∧ y = zero := by
  rw [eq_zero_iff, eq_negativeZero_iff]
  unfold rank place
  cases hxs : x.isNegative <;> cases hys : y.isNegative <;> simp [hx, hy] <;> omega

theorem rank_eq_iff (hx : x.isNaN = false) (hy : y.isNaN = false) : x.rank = y.rank ↔ x = y := by
  refine ⟨fun h => ?_, fun h => h ▸ rfl⟩
  simp only [rank, hx, hy, Bool.false_eq_true, if_false] at h
  cases hxs : x.isNegative <;> cases hys : y.isNegative <;> simp only [hxs, hys, Bool.false_eq_true, if_false, if_true] at h
  · exact eq_of_isNegative_of_magnitude (hxs.trans hys.symm) (by omega)
  · omega
  · omega
  · exact eq_of_isNegative_of_magnitude (hxs.trans hys.symm) (by omega)

/-- **Sorting goes by the numbers**, and puts negative zero below zero. -/
theorem order_eq_lt_iff (hp : x.number? = some p) (hq : y.number? = some q) :
    order x y = .lt ↔ p < q ∨ x = ofSignMagnitude true 0 ∧ y = zero := by
  rw [number_lt_iff hp hq, ← rank_lt_iff (number?_eq_some_iff.1 hp).1 (number?_eq_some_iff.1 hq).1]
  exact compare_lt_iff_lt

theorem order_eq_eq_iff (hp : x.number? = some p) (hq : y.number? = some q) : order x y = .eq ↔ x = y := by
  rw [← rank_eq_iff (number?_eq_some_iff.1 hp).1 (number?_eq_some_iff.1 hq).1]
  exact compare_eq_iff_eq

theorem order_of_isNaN (hx : x.isNaN = true) (hy : y.isNaN = true) : order x y = .eq := by
  rw [order, rank, rank, if_pos hx, if_pos hy]
  exact compare_eq_iff_eq.2 rfl

theorem order_isNaN_number (hx : x.isNaN = true) (hy : y.isNaN = false) : order x y = .gt := by
  have hle : y.magnitude ≤ infinite := by simpa [isNaN] using hy
  have hlt : y.rank < x.rank := by
    rw [rank, if_neg (Bool.eq_false_iff.1 hy), rank, if_pos hx]
    split <;> omega
  exact compare_gt_iff_gt.2 hlt

end Binary64
end GameShelf
