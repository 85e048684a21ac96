import GameShelf.Proofs.Selection.Tokens
/-!
# Resolution — what any token picks

A token picks the same with white space around it and without.  It is one of five things, and of digits only the number
counts that they write, however large: a position is a word and stops at the largest one, but no list has an item there
(`resolve_exact`).  And no selection, whether it was read or not, makes `pick` count below zero or reach outside the list
(`pickChecked_eq`).
-/
namespace GameShelf
namespace Selection

variable {α : Type} {nameOf : α → Text} {candidates : List α} {t a b : Text} {n first last : Nat}

theorem resolve_trim (nameOf : α → Text) (candidates : List α) (token : Text) :
    resolve nameOf candidates (Text.trim token) = resolve nameOf candidates token := by
  rw [resolve, resolve, read, read, Text.trim_trim]

/-! ## Digits -/

section Sized

variable (hsize : candidates.length < UInt64.size - 1)
include hsize

/-- **Digits pick the item of their number**, and nothing when there is none. -/
theorem resolve_writes (h : Text.Writes t n) :
    resolve nameOf candidates t =
      if h : 1 ≤ n ∧ n ≤ candidates.length then .ok [candidates[n - 1]]
      else .error ⟨Text.ofNat (min n (UInt64.size - 1)), .indexOutOfRange (min n (UInt64.size - 1)) candidates.length⟩ := by
  obtain ⟨hdigits, hn⟩ := Text.writes_iff.1 h
  rw [resolve_of_isDigits hdigits]
  simp only [pick, print, toNat_position, hn]
  split
  · next hout => rw [dif_neg (by omega)]
  · next hin =>
    -- a position in the list is less than the largest word, so it is the number itself
    rw [dif_pos (by omega), Nat.min_eq_left (by omega), List.drop_eq_getElem_cons (by omega), List.take_succ_cons,
      List.take_zero]

/-- **Digits with a dash between them pick the items from one number to the other**, and nothing when these are no two
positions in order. -/
theorem resolve_dash_writes (ha : Text.Writes a first) (hb : Text.Writes b last) :
    resolve nameOf candidates (a ++ '-' :: b) =
      if 1 ≤ first ∧ first ≤ last ∧ last ≤ candidates.length then .ok (slice candidates first last)
      else .error ⟨Text.ofNat (min first (UInt64.size - 1)) ++ '-' :: Text.ofNat (min last (UInt64.size - 1)),
        .invalidRange (min first (UInt64.size - 1)) (min last (UInt64.size - 1)) candidates.length⟩ := by
  obtain ⟨hadigits, hfirst⟩ := Text.writes_iff.1 ha
  obtain ⟨hbdigits, hlast⟩ := Text.writes_iff.1 hb
  rw [resolve_of_read (read_dash hadigits hbdigits)]
  simp only [pick, print, toNat_position, hfirst, hlast]
  split
  · next hout => rw [if_neg (by omega)]
  · next hin => rw [if_pos (by omega), Nat.min_eq_left (by omega), Nat.min_eq_left (by omega), slice]

end Sized

/-! ## Names -/

/-- A token that is none of the other things. -/
structure IsName (t : Text) : Prop where
  ne_nil : t ≠ []
  ne_all : t.map Char.toLower ≠ "all".toList
  not_digits : ¬ Text.isDigits t = true
  not_range : ∀ a b, t = a ++ '-' :: b → ¬ (Text.isDigits a = true ∧ Text.isDigits b = true)

theorem splitRange_eq_none (h : ∀ a b, t = a ++ '-' :: b → ¬ (Text.isDigits a = true ∧ Text.isDigits b = true)) :
    splitRange t = none := by
  refine Option.eq_none_iff_forall_ne_some.2 fun ⟨a, b⟩ hsome => ?_
  obtain ⟨ht, hdigits⟩ := splitRange_eq_some_iff.1 hsome
  exact h a b ht hdigits

theorem IsName.read_eq (token : Text) (h : IsName (Text.trim token)) : read token = .ok (.name (Text.trim token)) := by
  have hempty : ¬ (Text.trim token).isEmpty = true := by simpa using h.ne_nil
  simp only [read]
  rw [if_neg hempty, if_neg h.ne_all, if_neg h.not_digits, splitRange_eq_none h.not_range]

theorem pick_name (nameOf : α → Text) (candidates : List α) (wanted : Text) :
    (∃ before x after, candidates = before ++ x :: after ∧ Text.compareFolded (nameOf x) wanted = .eq ∧
      (∀ y ∈ before, Text.compareFolded (nameOf y) wanted ≠ .eq) ∧
      (Selection.name wanted).pick nameOf candidates = .ok [x]) ∨
    (∀ x ∈ candidates, Text.compareFolded (nameOf x) wanted ≠ .eq) ∧
      (Selection.name wanted).pick nameOf candidates = .error ⟨wanted, .nameNotFound⟩ := by
  simp only [pick, print]
  cases hfind : candidates.find? fun x => Text.compareFolded (nameOf x) wanted = .eq with
  | some x =>
    obtain ⟨hx, before, after, hcandidates, hbefore⟩ := List.find?_eq_some_iff_append.1 hfind
    exact .inl ⟨before, x, after, hcandidates, by simpa using hx, by simpa using hbefore, rfl⟩
  | none => exact .inr ⟨by simpa using hfind, rfl⟩

/-! ## Steps within bounds -/

/-- One word less another, unless that is below zero. -/
def minus? (i j : UInt64) : Option UInt64 :=
  if j ≤ i then some (i - j) else none

/-- The items from one place up to another, places counted from 0, unless the places are out of order or out of the list. -/
def cutOut? (candidates : List α) (start stop : Nat) : Option (List α) :=
  if start ≤ stop ∧ stop ≤ candidates.length then some ((candidates.take stop).drop start) else none

/-- `pick` with its steps checked: it gives nothing at all if a difference of words is below zero, or a place or a part of
the list outside it. -/
def pickChecked (nameOf : α → Text) (candidates : List α) (s : Selection) : Option (Except Failure (List α)) :=
  let length := candidates.length
  match s with
  | index i =>
    if i.toNat < 1 ∨ length < i.toNat then some (.error ⟨s.print, .indexOutOfRange i.toNat length⟩)
    else do
      let place ← minus? i 1
      let x ← candidates[place.toNat]?
      return .ok [x]
  | range i j =>
    if i.toNat < 1 ∨ length < j.toNat ∨ j.toNat < i.toNat then
      some (.error ⟨s.print, .invalidRange i.toNat j.toNat length⟩)
    else do
      let start ← minus? i 1
      let picked ← cutOut? candidates start.toNat j.toNat
      return .ok picked
  | all | name _ => some (s.pick nameOf candidates)

theorem minus?_one {i : UInt64} (h : 1 ≤ i.toNat) : ∃ k, minus? i 1 = some k ∧ k.toNat = i.toNat - 1 := by
  have hle : 1 ≤ i := UInt64.le_iff_toNat_le.2 h
  exact ⟨i - 1, if_pos hle, UInt64.toNat_sub_of_le _ _ hle⟩

/-- **Every step of a pick is within bounds**, whatever the selection. -/
theorem pickChecked_eq (nameOf : α → Text) (candidates : List α) (s : Selection) :
    s.pickChecked nameOf candidates = some (s.pick nameOf candidates) := by
  cases s with
  | all => rfl
  | name wanted => rfl
  | index i =>
    simp only [pickChecked, pick]
    split
    · rfl
    · next hin =>
      obtain ⟨k, hk, hplace⟩ := minus?_one (i := i) (by omega)
      have hlt : i.toNat - 1 < candidates.length := by omega
      rw [hk, Option.bind_eq_bind, Option.bind_some, hplace, List.getElem?_eq_getElem hlt, List.drop_eq_getElem_cons hlt]
      rfl
  | range i j =>
    simp only [pickChecked, pick]
    split
    · rfl
    · next hin =>
      obtain ⟨k, hk, hplace⟩ := minus?_one (i := i) (by omega)
      have hcut : cutOut? candidates (i.toNat - 1) j.toNat = some ((candidates.take j.toNat).drop (i.toNat - 1)) :=
        if_pos (by omega)
      rw [hk, Option.bind_eq_bind, Option.bind_some, hplace, hcut]
      rfl

/-! ## Tokens -/

/-- **What any token picks.**  Without the white space around it a token is empty and picks nothing; or it is the word for
everything; or it is digits and picks the item of the number that they write; or it is two numbers with a dash between
them and picks the items from one to the other; or it picks the first item of that name, case disregarded.  The numbers
are without bound: zeros in front change nothing, and a number that is no word is out of range like any other that is too
large.  Every step of a pick is within bounds, also of a selection that was never written as a token. -/
theorem resolve_exact (nameOf : α → Text) (candidates : List α) (token : Text)
    (hsize : candidates.length < UInt64.size - 1) :
    let t := Text.trim token
    let result := resolve nameOf candidates token
    let word := fun n => min n (UInt64.size - 1)
    (t = [] → result = .error ⟨[], .empty⟩) ∧
    (t.map Char.toLower = "all".toList → result = .ok candidates) ∧
    (∀ digits, Text.isDigits digits = true ↔ ∃ n, Text.Writes digits n) ∧
    (∀ n, Text.Writes t n → result =
      if h : 1 ≤ n ∧ n ≤ candidates.length then .ok [candidates[n - 1]]
      else .error ⟨Text.ofNat (word n), .indexOutOfRange (word n) candidates.length⟩) ∧
    (∀ a b first last, t = a ++ '-' :: b → Text.Writes a first → Text.Writes b last → result =
      if 1 ≤ first ∧ first ≤ last ∧ last ≤ candidates.length then .ok (slice candidates first last)
      else .error ⟨Text.ofNat (word first) ++ '-' :: Text.ofNat (word last),
        .invalidRange (word first) (word last) candidates.length⟩) ∧
    (IsName t →
      (∃ before x after, candidates = before ++ x :: after ∧ Text.compareFolded (nameOf x) t = .eq ∧
        (∀ y ∈ before, Text.compareFolded (nameOf y) t ≠ .eq) ∧ result = .ok [x]) ∨
      (∀ x ∈ candidates, Text.compareFolded (nameOf x) t ≠ .eq) ∧ result = .error ⟨t, .nameNotFound⟩) ∧
    ∀ s : Selection, s.pickChecked nameOf candidates = some (s.pick nameOf candidates) := by
  intro t result word
  have hresult : result = resolve nameOf candidates t := (resolve_trim nameOf candidates token).symm
  refine ⟨fun hempty => ?_, fun hall => ?_, fun digits => ?_, fun n hn => ?_, fun a b first last ht ha hb => ?_,
    fun hname => ?_, pickChecked_eq nameOf candidates⟩
  · have hread : read token = .error ⟨[], .empty⟩ := if_pos (List.isEmpty_iff.2 hempty)
    show (read token).bind _ = _
    rw [hread]
    rfl
  · have hempty : ¬ t.isEmpty = true := by
      rw [List.isEmpty_iff]
      intro hnil
      rw [hnil] at hall
      cases hall
    have hread : read token = .ok .all := (if_neg hempty).trans (if_pos hall)
    exact resolve_of_read hread
  · exact ⟨fun h => ⟨_, Text.writes_digitsValue h⟩, fun ⟨n, hn⟩ => (Text.writes_iff.1 hn).1⟩
  · rw [hresult]
    exact resolve_writes hsize hn
  · rw [hresult, ht]
    exact resolve_dash_writes hsize ha hb
  · have hpick : result = (Selection.name t).pick nameOf candidates := resolve_of_read (IsName.read_eq token hname)
    rw [hpick]
    exact pick_name nameOf candidates t

/-- Zeros in front of a number, and a number that would be the second position if positions started over behind the
largest word; the same in a range; and a name that two items bear. -/
theorem resolve_exact_items :
    let items := ["Go".toList, "Chess".toList, "CHESS".toList]
    let picks := resolve id items
    items.length < UInt64.size - 1 ∧ IsName "chess".toList ∧
    picks " ".toList = .error ⟨[], .empty⟩ ∧ picks "All ".toList = .ok items ∧
    picks "0002".toList = .ok ["Chess".toList] ∧
    picks "18446744073709551618".toList =
      .error ⟨"18446744073709551615".toList, .indexOutOfRange 18446744073709551615 3⟩ ∧
    picks " 02-3".toList = .ok ["Chess".toList, "CHESS".toList] ∧
    picks "18446744073709551618-3".toList =
      .error ⟨"18446744073709551615-3".toList, .invalidRange 18446744073709551615 3 3⟩ ∧
    picks "chess".toList = .ok ["Chess".toList] := by
  intro items picks
  have hsize : items.length < UInt64.size - 1 := by decide
  have hexact := fun token => resolve_exact id items token hsize
  have hname : IsName "chess".toList := by
    refine ⟨by decide, by decide, by decide, fun a b h => ?_⟩
    have hdash : '-' ∈ "chess".toList := h ▸ List.mem_append_right a List.mem_cons_self
    exact absurd hdash (by decide)
  obtain ⟨hempty, -⟩ := hexact " ".toList
  obtain ⟨-, hall, -⟩ := hexact "All ".toList
  obtain ⟨-, -, -, hzeros, -⟩ := hexact "0002".toList
  obtain ⟨-, -, -, hlarge, -⟩ := hexact "18446744073709551618".toList
  obtain ⟨-, -, -, -, hrange, -⟩ := hexact " 02-3".toList
  obtain ⟨-, -, -, -, hwide, -⟩ := hexact "18446744073709551618-3".toList
  obtain ⟨-, -, -, -, -, hbears, -⟩ := hexact "chess".toList
  have hchess : picks "chess".toList = .ok ["Chess".toList] := by
    rcases hbears hname with ⟨before, x, after, hitems, hx, hbefore, hpick⟩ | ⟨hnone, -⟩
    · have htrim : Text.trim "chess".toList = "chess".toList := rfl
      rw [htrim] at hx hbefore
      have hfirst : items.find? (fun y => Text.compareFolded (id y) "chess".toList = .eq) = some x :=
        List.find?_eq_some_iff_append.2 ⟨decide_eq_true hx, before, after, hitems, fun y hy => by
          rw [decide_eq_false (hbefore y hy)]
          rfl⟩
      have hfound : items.find? (fun y => Text.compareFolded (id y) "chess".toList = .eq) = some "Chess".toList := by
        decide +kernel
      obtain rfl : x = "Chess".toList := Option.some.inj (hfirst.symm.trans hfound)
      exact hpick
    · exact absurd (by decide +kernel) (hnone "Chess".toList (by decide))
  exact ⟨hsize, hname, hempty rfl, hall (by decide), hzeros 2 ⟨3, rfl⟩, hlarge 18446744073709551618 ⟨0, rfl⟩,
    hrange "02".toList "3".toList 2 3 rfl ⟨1, rfl⟩ ⟨0, rfl⟩,
    hwide "18446744073709551618".toList "3".toList 18446744073709551618 3 rfl ⟨0, rfl⟩ ⟨0, rfl⟩, hchess⟩

end Selection
end GameShelf
