import GameShelf.Proofs.Operator
import GameShelf.Proofs.Selection
import GameShelf.Proofs.Text.Digits
import GameShelf.Proofs.Text.Trim
/-!
# Tokens — positions written in digits

Digits are read as a position, and digits with a dash between them as a range (`read_of_isDigits`, `read_dash`).  The
position is the number that the digits write, as long as that is a word, and else the largest word (`toNat_position`).  So
in a list that has fewer items than the largest word, the token of a number picks what stands there and nothing else
(`resolve_ofNat`, `resolve_dash_ofNat`).
-/
namespace GameShelf
namespace Selection

variable {α : Type} {nameOf : α → Text} {candidates : List α} {t a b : Text}

/-- A token that begins and ends with a digit is read as it stands, and is not the word for everything. -/
theorem read_of_digit_ends (hne : t ≠ []) (hhead : ∀ c ∈ t.head?, c.isDigit = true)
    (hlast : ∀ c ∈ t.getLast?, c.isDigit = true) :
    read t = if Text.isDigits t then .ok (.index (position t))
      else match splitRange t with
        | some (first, last) => .ok (.range (position first) (position last))
        | none => .ok (.name t) := by
  have htrim : Text.trim t = t := Text.trim_eq_self_iff.2
    ⟨fun c hc => Text.not_blank_of_isDigit (hhead c hc), fun c hc => Text.not_blank_of_isDigit (hlast c hc)⟩
  have hall : ¬ t.map Char.toLower = "all".toList := by
    cases t with
    | nil => exact absurd rfl hne
    | cons x t =>
      intro hmap
      have hx : x.toLower = 'a' := (List.cons.inj hmap).1
      rw [Text.toLower_of_isDigit (hhead x rfl)] at hx
      have hdigit : x.isDigit = true := hhead x rfl
      rw [hx] at hdigit
      exact absurd hdigit (by decide)
  have hempty : ¬ t.isEmpty = true := by simpa using hne
  simp only [read, htrim]
  exact (if_neg hempty).trans (if_neg hall)

theorem read_of_isDigits (h : Text.isDigits t = true) : read t = .ok (.index (position t)) := by
  obtain ⟨hne, hdigits⟩ := Text.isDigits_iff.1 h
  have hhead : ∀ c ∈ t.head?, c.isDigit = true := fun c hc => hdigits c (List.mem_of_head? hc)
  have hlast : ∀ c ∈ t.getLast?, c.isDigit = true := fun c hc => hdigits c (List.mem_of_getLast? hc)
  rw [read_of_digit_ends hne hhead hlast, if_pos h]

theorem splitRange_eq_some_iff :
    splitRange t = some (a, b) ↔ t = a ++ '-' :: b ∧ Text.isDigits a = true ∧ Text.isDigits b = true := by
  rw [splitRange, Option.filter_eq_some_iff, Bool.and_eq_true]
  constructor
  · rintro ⟨hcut, hdigits⟩
    exact ⟨by simpa using Text.eq_append_of_cut hcut, hdigits⟩
  · rintro ⟨rfl, ha, hb⟩
    have hcut : Text.cut ['-'] (a ++ ['-'] ++ b) = some (a, b) := Text.cut_append b (Text.dash_not_mem_of_isDigits ha)
    rw [List.append_assoc] at hcut
    exact ⟨hcut, ha, hb⟩

theorem read_dash (ha : Text.isDigits a = true) (hb : Text.isDigits b = true) :
    read (a ++ '-' :: b) = .ok (.range (position a) (position b)) := by
  obtain ⟨hane, hadigits⟩ := Text.isDigits_iff.1 ha
  obtain ⟨hbne, hbdigits⟩ := Text.isDigits_iff.1 hb
  have hnot : ¬ Text.isDigits (a ++ '-' :: b) = true := fun h =>
    Text.dash_not_mem_of_isDigits h (by simp)
  have hsplit : splitRange (a ++ '-' :: b) = some (a, b) := splitRange_eq_some_iff.2 ⟨rfl, ha, hb⟩
  rw [read_of_digit_ends (by simp) ?_ ?_, if_neg hnot, hsplit]
  · intro c hc
    rw [List.head?_append_of_ne_nil _ hane] at hc
    exact hadigits c (List.mem_of_head? hc)
  · intro c hc
    rw [List.getLast?_append_of_ne_nil _ (List.cons_ne_nil _ _), List.getLast?_cons_of_ne_nil hbne] at hc
    exact hbdigits c (List.mem_of_getLast? hc)

theorem toNat_position (t : Text) : (position t).toNat = min (Text.digitsValue t) (UInt64.size - 1) :=
  UInt64.toNat_ofNat_of_lt (Nat.lt_of_le_of_lt (Nat.min_le_right _ _) (by decide))

/-! ## Numbers of a list -/

theorem toNat_position_ofNat (n : Nat) : (position (Text.ofNat n)).toNat = min n (UInt64.size - 1) := by
  rw [toNat_position, Text.digitsValue_ofNat]

theorem resolve_of_isDigits (h : Text.isDigits t = true) :
    resolve nameOf candidates t = (index (position t)).pick nameOf candidates :=
  resolve_of_read (read_of_isDigits h)

/-- **The number of an item picks that item**, as long as it is a word. -/
theorem resolve_ofNat_of_lt {k : Nat} {x : α} (hword : k < UInt64.size) (hk : 1 ≤ k) (hx : candidates[k - 1]? = some x) :
    resolve nameOf candidates (Text.ofNat k) = .ok [x] := by
  obtain ⟨hlt, rfl⟩ := List.getElem?_eq_some_iff.1 hx
  have hposition : (position (Text.ofNat k)).toNat = k := by rw [toNat_position_ofNat]; omega
  rw [resolve_of_isDigits (Text.isDigits_ofNat k)]
  simp only [pick, hposition]
  rw [if_neg (by omega), List.drop_eq_getElem_cons hlt, List.take_succ_cons, List.take_zero]

/-- **Two numbers with a dash between them pick the items from the first to the second**, as long as they are words. -/
theorem resolve_dash_ofNat_of_lt {i j : Nat} (hword : j < UInt64.size) (hi : 1 ≤ i) (hij : i ≤ j)
    (hj : j ≤ candidates.length) :
    resolve nameOf candidates (Text.ofNat i ++ '-' :: Text.ofNat j) = .ok (slice candidates i j) := by
  have hfirst : (position (Text.ofNat i)).toNat = i := by rw [toNat_position_ofNat]; omega
  have hlast : (position (Text.ofNat j)).toNat = j := by rw [toNat_position_ofNat]; omega
  rw [resolve_of_read (read_dash (Text.isDigits_ofNat i) (Text.isDigits_ofNat j))]
  simp only [pick, hfirst, hlast]
  rw [if_neg (by omega)]
  rfl

section Sized

variable (hsize : candidates.length < UInt64.size - 1)
include hsize

theorem resolve_ofNat {k : Nat} {x : α} (hk : 1 ≤ k) (hx : candidates[k - 1]? = some x) :
    resolve nameOf candidates (Text.ofNat k) = .ok [x] := by
  have hlt : k - 1 < candidates.length := (List.getElem?_eq_some_iff.1 hx).1
  exact resolve_ofNat_of_lt (by omega) hk hx

/-- **A number that no item has picks nothing.** -/
theorem resolve_ofNat_of_not_mem {m : Nat} (hm : m = 0 ∨ candidates.length < m) :
    resolve nameOf candidates (Text.ofNat m) =
      .error ⟨Text.ofNat (min m (UInt64.size - 1)), .indexOutOfRange (min m (UInt64.size - 1)) candidates.length⟩ := by
  rw [resolve_of_isDigits (Text.isDigits_ofNat m)]
  simp only [pick, print, toNat_position_ofNat]
  rw [if_pos (by omega)]

theorem resolve_dash_ofNat {i j : Nat} (hi : 1 ≤ i) (hij : i ≤ j) (hj : j ≤ candidates.length) :
    resolve nameOf candidates (Text.ofNat i ++ '-' :: Text.ofNat j) = .ok (slice candidates i j) :=
  resolve_dash_ofNat_of_lt (by omega) hi hij hj

end Sized

end Selection
end GameShelf
