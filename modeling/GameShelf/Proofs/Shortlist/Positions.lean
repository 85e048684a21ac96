import GameShelf.Proofs.Selection.Tokens
import GameShelf.Proofs.Shortlist.Additions
import GameShelf.Proofs.Shortlist.Removal
/-!
# Shortlist positions — ranges, and their positions one by one

Adding a range of positions is adding the positions in turn, and removing one is removing them in turn from the last to
the first: a removal moves only what stands behind it (`range_in_turn`).  What an addition adds stands together at the
end, so that one range takes it back (`remove_added`).
-/
namespace GameShelf
namespace Shortlist

variable {list next last : Shortlist} {g : Game} {candidates before picked doomed after : List Game} {token : Text}
  {tokens : List Text} {i j k m n : Nat}

/-- Edits by several tokens in turn, up to one that fails: the list at the end, and how many games came or went in all. -/
def inTurn (edit : Shortlist → Text → Shortlist × Except Selection.Failure Nat) (list : Shortlist) :
    List Text → Shortlist × Except Selection.Failure Nat
  | [] => (list, .ok 0)
  | token :: tokens =>
    match edit list token with
    | (next, .error cause) => (next, .error cause)
    | (next, .ok n) => (inTurn edit next tokens).map id (·.map (n + ·))

/-- The tokens of the positions from one to another. -/
def positions (i j : Nat) : List Text :=
  (List.range' i (j + 1 - i)).map Text.ofNat

theorem inTurn_cons {edit : Shortlist → Text → Shortlist × Except Selection.Failure Nat}
    (hfirst : edit list token = (next, .ok n)) (hrest : inTurn edit next tokens = (last, .ok m)) :
    inTurn edit list (token :: tokens) = (last, .ok (n + m)) := by
  rw [inTurn, hfirst]
  show (inTurn edit next tokens).map id _ = _
  rw [hrest]
  rfl

/-! ## Additions in turn -/

theorem count_le_count_insert (list : Shortlist) (g : Game) : list.count ≤ (list.insert g).count := by
  cases h : list.contains g with
  | true => rw [insert_of_contains h]
  | false =>
    rw [insert_of_not_contains h, count, count, List.length_append]
    exact Nat.le_add_right _ _

theorem count_le_count_foldl_insert (list : Shortlist) (picked : List Game) :
    list.count ≤ (picked.foldl insert list).count := by
  induction picked generalizing list with
  | nil => exact Nat.le_refl _
  | cons g picked ih => exact Nat.le_trans (count_le_count_insert list g) (ih (list.insert g))

theorem add_position (hword : before.length + 1 < UInt64.size) (h : before ++ g :: after = candidates) :
    list.add candidates (Text.ofNat (before.length + 1)) = (list.insert g, .ok ((list.insert g).count - list.count)) := by
  have hg : candidates[before.length + 1 - 1]? = some g := by rw [← h]; simp
  exact add_of_resolve (Selection.resolve_ofNat_of_lt hword (Nat.le_add_left 1 _) hg)

/-- **Adding positions in turn is inserting the games at them.** -/
theorem inTurn_add (list : Shortlist) (hword : before.length + picked.length < UInt64.size)
    (h : before ++ picked ++ after = candidates) :
    inTurn (fun list token => list.add candidates token) list
        ((List.range' (before.length + 1) picked.length).map Text.ofNat) =
      (picked.foldl insert list, .ok ((picked.foldl insert list).count - list.count)) := by
  induction picked generalizing before list with
  | nil => simp [inTurn]
  | cons g picked ih =>
    rw [List.length_cons] at hword
    have hfirst : list.add candidates (Text.ofNat (before.length + 1)) =
        (list.insert g, .ok ((list.insert g).count - list.count)) := by
      have hg : before ++ g :: (picked ++ after) = candidates := by rw [← h, List.append_assoc, List.cons_append]
      exact add_position (by omega) hg
    have hbefore : (before ++ [g]).length = before.length + 1 := List.length_append
    have hsplit : before ++ [g] ++ picked ++ after = candidates := by rw [← h]; simp
    have hrest := ih (list.insert g) (by omega) hsplit
    rw [hbefore] at hrest
    rw [List.length_cons, List.range'_succ, List.map_cons, inTurn_cons hfirst hrest, List.foldl_cons]
    -- the counts add up because no insertion makes the list shorter
    have hinsert := count_le_count_insert list g
    have hfold := count_le_count_foldl_insert (list.insert g) picked
    congr 2
    omega

/-! ## Removals in turn -/

/-- **Of the games that a token resolves to, those without a NaN are removed.** -/
theorem remove_middle (h : list.Distinct) (hall : Selection.read token ≠ .ok .all)
    (hpick : Selection.resolve Game.name list.games token = .ok doomed)
    (hgames : before ++ doomed ++ after = list.games) :
    list.remove token = (⟨before ++ doomed.filter Game.hasNaN ++ after⟩, .ok (doomed.countP fun g => !g.hasNaN)) := by
  rw [remove_of_resolve hall hpick, count_erase_middle h hgames, erase_middle h hgames]

theorem removed_all_iff (before doomed after : List Game) :
    (⟨before ++ doomed.filter Game.hasNaN ++ after⟩, Except.ok (doomed.countP fun g => !g.hasNaN)) =
      ((⟨before ++ after⟩, .ok doomed.length) : Shortlist × Except Selection.Failure Nat) ↔
        ∀ g ∈ doomed, g.hasNaN = false := by
  constructor
  · intro h g hg
    have hcount : (doomed.countP fun g => !g.hasNaN) = doomed.length := Except.ok.inj (Prod.mk.inj h).2
    simpa using List.countP_eq_length.1 hcount g hg
  · intro h
    have hstay : doomed.filter Game.hasNaN = [] := List.filter_eq_nil_iff.2 fun g hg => by simp [h g hg]
    have hcount : doomed.countP (fun g => !g.hasNaN) = doomed.length :=
      List.countP_eq_length.2 fun g hg => by simp [h g hg]
    rw [hstay, hcount, List.append_nil]

theorem remove_position (h : list.Distinct) (hword : before.length + 1 < UInt64.size)
    (hgames : before ++ [g] ++ after = list.games) :
    list.remove (Text.ofNat (before.length + 1)) =
      (⟨before ++ [g].filter Game.hasNaN ++ after⟩, .ok ([g].countP fun g => !g.hasNaN)) := by
  have hg : list.games[before.length + 1 - 1]? = some g := by rw [← hgames]; simp
  refine remove_middle h ?_ (Selection.resolve_ofNat_of_lt hword (Nat.le_add_left 1 _) hg) hgames
  rw [Selection.read_of_isDigits (Text.isDigits_ofNat _)]
  simp

theorem remove_range (h : list.Distinct) (hne : doomed ≠ []) (hword : before.length + doomed.length < UInt64.size)
    (hgames : before ++ doomed ++ after = list.games) :
    list.remove (Text.ofNat (before.length + 1) ++ '-' :: Text.ofNat (before.length + doomed.length)) =
      (⟨before ++ doomed.filter Game.hasNaN ++ after⟩, .ok (doomed.countP fun g => !g.hasNaN)) := by
  have hpos : 0 < doomed.length := List.length_pos_iff.2 hne
  have hlast : before.length + doomed.length ≤ list.games.length := by rw [← hgames]; simp
  have hslice : Selection.slice list.games (before.length + 1) (before.length + doomed.length) = doomed := by
    rw [Selection.slice, ← hgames, ← List.length_append, List.take_left, Nat.add_sub_cancel, List.drop_left]
  have hpick : Selection.resolve Game.name list.games
      (Text.ofNat (before.length + 1) ++ '-' :: Text.ofNat (before.length + doomed.length)) = .ok doomed := by
    rw [Selection.resolve_dash_ofNat_of_lt hword (Nat.le_add_left 1 _) (by omega) hlast, hslice]
  refine remove_middle h ?_ hpick hgames
  rw [Selection.read_dash (Text.isDigits_ofNat _) (Text.isDigits_ofNat _)]
  simp

/-- **Removing positions in turn from the last to the first removes the games at them that have no NaN.** -/
theorem inTurn_remove (h : list.Distinct) (hword : before.length + doomed.length < UInt64.size)
    (hgames : before ++ doomed ++ after = list.games) :
    inTurn remove list ((List.range' (before.length + 1) doomed.length).map Text.ofNat).reverse =
      (⟨before ++ doomed.filter Game.hasNaN ++ after⟩, .ok (doomed.countP fun g => !g.hasNaN)) := by
  -- from the end: what a removal leaves of its game stands behind all that is still to be removed
  induction doomed using List.reverseRecOn generalizing list after with
  | nil =>
    rw [List.append_nil] at hgames
    rw [List.filter_nil, List.append_nil, hgames]
    rfl
  | append_singleton doomed g ih =>
    rw [List.length_append, List.length_singleton] at hword
    have hmiddle : (before ++ doomed) ++ [g] ++ after = list.games := by rw [← hgames]; simp
    have hfirst := remove_position h (by rw [List.length_append]; omega) hmiddle
    have hnext : Distinct ⟨before ++ doomed ++ [g].filter Game.hasNaN ++ after⟩ := by
      rw [← erase_middle h hmiddle]
      exact distinct_erase [g] h
    have hrest := ih hnext (by omega) (List.append_assoc _ _ _).symm
    have htokens : ((List.range' (before.length + 1) (doomed ++ [g]).length).map Text.ofNat).reverse =
        Text.ofNat ((before ++ doomed).length + 1) ::
          ((List.range' (before.length + 1) doomed.length).map Text.ofNat).reverse := by
      have hlast : before.length + 1 + doomed.length = (before ++ doomed).length + 1 := by
        rw [List.length_append]
        omega
      have hlength : (doomed ++ [g]).length = doomed.length + 1 := List.length_append
      rw [hlength, List.range'_1_concat, List.map_append, List.reverse_append, hlast]
      rfl
    rw [htokens, inTurn_cons hfirst hrest]
    simp [Nat.add_comm]

/-! ## A range and its positions -/

/-- **A range of positions is its positions in turn.**  To add it is to add them from the first to the last, and to remove
it is to remove them from the last to the first: either way all succeeds, with the same list at the end and the same
number of games in all.  Positions are words, of which there are more than games in any list that is stored. -/
theorem range_in_turn (hreach : list.Reachable) (hi : 1 ≤ i) (hij : i ≤ j) (hword : j < UInt64.size) :
    let range := Text.ofNat i ++ '-' :: Text.ofNat j
    (∀ candidates : List Game, j ≤ candidates.length → ∃ next n, list.add candidates range = (next, .ok n) ∧
      inTurn (fun list token => list.add candidates token) list (positions i j) = (next, .ok n)) ∧
    (j ≤ list.count → ∃ next n, list.remove range = (next, .ok n) ∧
      inTurn remove list (positions i j).reverse = (next, .ok n)) := by
  intro range
  -- where the positions lie in a list that has them
  have hplace : ∀ games : List Game, j ≤ games.length → (games.take (i - 1)).length + 1 = i ∧
      (games.take (i - 1)).length + (Selection.slice games i j).length = j ∧
      (Selection.slice games i j).length = j + 1 - i := by
    intro games hj
    rw [Selection.length_slice hj, List.length_take]
    omega
  constructor
  · intro candidates hj
    obtain ⟨hfirst, hlast, hlength⟩ := hplace candidates hj
    have hturn := inTurn_add list (hlast.symm ▸ hword) (Selection.take_append_slice (by omega))
    rw [hfirst, hlength] at hturn
    exact ⟨_, _, add_of_resolve (Selection.resolve_dash_ofNat_of_lt hword hi hij hj), hturn⟩
  · intro hj
    obtain ⟨hfirst, hlast, hlength⟩ := hplace list.games hj
    have hdistinct := distinct_of_reachable hreach
    have hgames : list.games.take (i - 1) ++ Selection.slice list.games i j ++ list.games.drop j = list.games :=
      Selection.take_append_slice (by omega)
    have hne : Selection.slice list.games i j ≠ [] := List.length_pos_iff.1 (by omega)
    have hremove := remove_range hdistinct hne (hlast.symm ▸ hword) hgames
    have hturn := inTurn_remove hdistinct (hlast.symm ▸ hword) hgames
    rw [hfirst, hlast] at hremove
    rw [hfirst, hlength] at hturn
    exact ⟨_, _, hremove, hturn⟩

/-- A shelf that holds a game with a NaN, and a game that the list has already; and a removal that leaves the game with
the NaN where it is. -/
theorem range_in_turn_repeated :
    let go : Game := .ofName "Go".toList 1
    let chess : Game := .ofName "Chess".toList 7
    let odd : Game := { Game.ofName "Odd".toList 9 with rating := .ofSignMagnitude false Binary64.quietNaN }
    let shelf := [go, odd, go, chess]
    let list := run [.add shelf "all".toList]
    list = ⟨[go, odd, chess]⟩ ∧ list.Reachable ∧ 3 < UInt64.size ∧ 3 ≤ shelf.length ∧ 3 ≤ list.count ∧
    list.add shelf "2-3".toList = (⟨[go, odd, chess, odd]⟩, .ok 1) ∧
    inTurn (fun list token => list.add shelf token) list ["2".toList, "3".toList] = (⟨[go, odd, chess, odd]⟩, .ok 1) ∧
    list.remove "2-3".toList = (⟨[go, odd]⟩, .ok 1) ∧
    inTurn remove list ["3".toList, "2".toList] = (⟨[go, odd]⟩, .ok 1) := by
  intro go chess odd shelf list
  have hlist : list = ⟨[go, odd, chess]⟩ := by decide +kernel
  have hreach : list.Reachable := ⟨_, rfl⟩
  have hcount : 3 ≤ list.count := by rw [hlist]; decide
  obtain ⟨hadds, hremoves⟩ := range_in_turn hreach (i := 2) (j := 3) (by decide) (by decide) (by decide)
  obtain ⟨next, n, hadd, haddTurn⟩ := hadds shelf (by decide)
  obtain ⟨rest, m, hremove, hremoveTurn⟩ := hremoves hcount
  have hadded : list.add shelf "2-3".toList = (⟨[go, odd, chess, odd]⟩, .ok 1) := by decide +kernel
  have hremoved : list.remove "2-3".toList = (⟨[go, odd]⟩, .ok 1) := by decide +kernel
  obtain ⟨rfl, rfl⟩ : next = ⟨[go, odd, chess, odd]⟩ ∧ n = 1 := by simpa using hadd.symm.trans hadded
  obtain ⟨rfl, rfl⟩ : rest = ⟨[go, odd]⟩ ∧ m = 1 := by simpa using hremove.symm.trans hremoved
  exact ⟨hlist, hreach, by decide, by decide, hcount, hadd, haddTurn, hremove, hremoveTurn⟩

/-! ## Taking back an addition -/

/-- **One range takes back an addition.**  The games that an addition appends stand together behind the others, and the
range of their positions removes those without a NaN.  So it restores the list, and tells as many games as were added,
exactly when none of them has a NaN. -/
theorem remove_added (hreach : list.Reachable) (hadd : list.add candidates token = (next, .ok k)) (hk : 1 ≤ k)
    (hword : next.count < UInt64.size) :
    let range := Text.ofNat (list.count + 1) ++ '-' :: Text.ofNat (list.count + k)
    ∃ appended, next.games = list.games ++ appended ∧ appended.length = k ∧
      next.remove range =
        (⟨list.games ++ appended.filter Game.hasNaN⟩, .ok (appended.countP fun g => !g.hasNaN)) ∧
      (next.remove range = (list, .ok k) ↔ ∀ g ∈ appended, g.hasNaN = false) := by
  intro range
  obtain ⟨picked, -, hnext, -⟩ := add_eq_ok hadd
  obtain ⟨-, gained, -, -, hgames, rfl⟩ := add_eq_ok_iff.1 hadd
  have hdistinct : next.Distinct := hnext ▸ distinct_foldl_insert picked (distinct_of_reachable hreach)
  have hlength : (gained.map Prod.fst).length = gained.length := List.length_map _
  have hne : gained.map Prod.fst ≠ [] := List.length_pos_iff.1 (by omega)
  have hcount : next.count = list.games.length + (gained.map Prod.fst).length := by
    rw [count, hgames, List.length_append]
  have hend : list.games ++ gained.map Prod.fst ++ [] = next.games := by rw [List.append_nil, hgames]
  have hremove := remove_range hdistinct hne (hcount ▸ hword) hend
  have hall := removed_all_iff list.games (gained.map Prod.fst) []
  rw [List.append_nil, hlength] at hremove
  rw [List.append_nil, List.append_nil, hlength] at hall
  refine ⟨gained.map Prod.fst, hgames, hlength, hremove, ?_⟩
  rw [show next.remove range = _ from hremove]
  exact hall

/-- An addition of which the list has one game already, with the other zero: what came behind it goes again, and it
stays. -/
theorem remove_added_rest :
    let go : Game := .ofName "Go".toList 1
    let flat : Game := { go with rating := .ofSignMagnitude true 0 }
    let chess : Game := .ofName "Chess".toList 7
    let catan : Game := .ofName "Catan".toList 8
    let list := run [.add [go] "1".toList]
    let next : Shortlist := ⟨[go, catan, chess]⟩
    list.Reachable ∧ list.add [catan, flat, chess] "all".toList = (next, .ok 2) ∧ 1 ≤ 2 ∧ next.count < UInt64.size ∧
    next.remove "2-3".toList = (list, .ok 2) := by
  intro go flat chess catan list next
  have hreach : list.Reachable := ⟨_, rfl⟩
  have hadd : list.add [catan, flat, chess] "all".toList = (next, .ok 2) := by decide +kernel
  have hword : next.count < UInt64.size := by decide
  obtain ⟨appended, hgames, -, -, hall⟩ := remove_added hreach hadd (by decide) hword
  have hbehind : [go] ++ [catan, chess] = [go] ++ appended := hgames
  obtain rfl : [catan, chess] = appended := List.append_cancel_left hbehind
  have hrange : Text.ofNat (list.count + 1) ++ '-' :: Text.ofNat (list.count + 2) = "2-3".toList := by decide +kernel
  rw [hrange] at hall
  exact ⟨hreach, hadd, by decide, hword, hall.2 (by decide +kernel)⟩

end Shortlist
end GameShelf
