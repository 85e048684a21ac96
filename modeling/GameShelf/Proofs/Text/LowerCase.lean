import GameShelf.Text.LowerCase
/-!
# LowerCase — where the two ways to disregard case differ

Lower-casing a text as a whole and lower-casing its characters one by one give the same, but for the capital sigmas that
end a word (`getElem?_lower`).  What ends a word depends on what stands around it.  So where a text stands within another,
its lower-case form stands within that of the other exactly if both have their final sigmas at the same places
(`lower_prefix_drop_iff`).
-/
namespace GameShelf

/-- No row has the final sigma for a small letter. -/
theorem CaseRun.apply_ne_finalSigma {run : CaseRun} (hrun : run ∈ table) {n : Nat} (hn : run.covers n = true) :
    run.apply n ≠ 'ς'.toNat := by
  have hrows : ∀ r ∈ table, r.image + (r.last - r.first) < 0x3C2 ∨ 0x3C2 < r.image := by decide +kernel
  have hsides := hrows run hrun
  have hcode : 'ς'.toNat = 0x3C2 := by decide
  simp only [covers, Bool.and_eq_true, decide_eq_true_eq] at hn
  rw [apply, hcode]
  omega

namespace Text

variable {f v before rest t : Text} {c : Char} {m n : Nat}

/-- In the rest of a text, of which `before` has been passed, the nearest character first, a capital sigma ends a word, and
its lower-case form has place `n` in the folded rest. -/
def FinalAfter (before rest : Text) (n : Nat) : Prop :=
  ∃ k < rest.length, rest[k]? = some 'Σ' ∧ (fold (rest.take k)).length = n ∧
    facesCased ((rest.take k).reverse ++ before) = true ∧ facesCased (rest.drop (k + 1)) = false

/-- A capital sigma of the text ends a word, and its lower-case form has place `n` in the folded text. -/
def FinalAt (t : Text) (n : Nat) : Prop :=
  FinalAfter [] t n

instance : Decidable (FinalAfter before rest n) :=
  inferInstanceAs (Decidable (∃ k < rest.length, _))

instance : Decidable (FinalAt t n) :=
  inferInstanceAs (Decidable (FinalAfter [] t n))

theorem compareFolded_eq_iff {s t : Text} : compareFolded s t = .eq ↔ fold s = fold t :=
  Std.compare_eq_iff_eq

theorem fold_cons (c : Char) (t : Text) : fold (c :: t) = lowerChar c ++ fold t :=
  List.flatMap_cons ..

theorem lowerChar_sigma : lowerChar 'Σ' = ['σ'] := by decide +kernel

theorem eq_finalSigma_of_mem_lowerChar (h : 'ς' ∈ lowerChar c) : c = 'ς' := by
  rw [lowerChar] at h
  split at h
  · next hascii =>
    have hnone : ∀ n < 0x80, 'ς' ≠ (Char.ofNat n).toLower := by decide
    have hlower := hnone c.toNat hascii
    rw [Char.ofNat_toNat] at hlower
    exact absurd (List.mem_singleton.1 h) hlower
  · split at h
    · exact absurd h (by decide)
    · split at h
      · next run hfind =>
        have hrun : run ∈ CaseRun.table := List.mem_of_find?_eq_some hfind
        have hcovers : run.covers c.toNat = true := List.find?_some (p := fun r : CaseRun => r.covers c.toNat) hfind
        have hchar : Char.ofNat (run.apply c.toNat) = 'ς' := (List.mem_singleton.1 h).symm
        refine absurd ?_ (CaseRun.apply_ne_finalSigma hrun hcovers)
        by_cases hvalid : (run.apply c.toNat).isValidChar
        · rw [← hchar, Char.ofNat, dif_pos hvalid]
          rfl
        · have hnull : Char.ofNat (run.apply c.toNat) = Char.ofNat 0 := dif_neg hvalid
          rw [hnull] at hchar
          cases hchar
      · exact (List.mem_singleton.1 h).symm

theorem finalSigma_mem_of_mem_fold (h : 'ς' ∈ fold t) : 'ς' ∈ t := by
  obtain ⟨c, hc, hsigma⟩ := List.mem_flatMap.1 h
  exact eq_finalSigma_of_mem_lowerChar hsigma ▸ hc

theorem finalAfter_cons_iff : FinalAfter before (c :: rest) n ↔
    (c = 'Σ' ∧ n = 0 ∧ facesCased before = true ∧ facesCased rest = false) ∨
    ∃ m, n = (lowerChar c).length + m ∧ FinalAfter (c :: before) rest m := by
  constructor
  · rintro ⟨k, hk, hsigma, hplace, hbefore, hafter⟩
    cases k with
    | zero =>
      have hc : c = 'Σ' := Option.some.inj hsigma
      exact .inl ⟨hc, hplace.symm, hbefore, hafter⟩
    | succ k =>
      rw [List.take_succ_cons, fold_cons, List.length_append] at hplace
      rw [List.take_succ_cons, List.reverse_cons, List.append_assoc] at hbefore
      exact .inr ⟨_, hplace.symm, k, Nat.lt_of_succ_lt_succ hk, hsigma, rfl, hbefore, hafter⟩
  · rintro (⟨rfl, rfl, hbefore, hafter⟩ | ⟨m, rfl, k, hk, hsigma, rfl, hbefore, hafter⟩)
    · exact ⟨0, Nat.succ_pos _, rfl, rfl, hbefore, hafter⟩
    · refine ⟨k + 1, Nat.succ_lt_succ hk, hsigma, ?_, ?_, hafter⟩
      · rw [List.take_succ_cons, fold_cons, List.length_append]
      · rwa [List.take_succ_cons, List.reverse_cons, List.append_assoc]

theorem finalAfter_cons_of_lt (h : n < (lowerChar c).length) :
    FinalAfter before (c :: rest) n ↔ c = 'Σ' ∧ facesCased before = true ∧ facesCased rest = false := by
  rw [finalAfter_cons_iff]
  constructor
  · rintro (⟨hc, -, hfaces⟩ | ⟨m, rfl, -⟩)
    · exact ⟨hc, hfaces⟩
    · omega
  · rintro ⟨rfl, hfaces⟩
    rw [lowerChar_sigma] at h
    exact .inl ⟨rfl, Nat.lt_one_iff.1 h, hfaces⟩

theorem finalAfter_cons_of_ge (h : (lowerChar c).length ≤ n) :
    FinalAfter before (c :: rest) n ↔ FinalAfter (c :: before) rest (n - (lowerChar c).length) := by
  rw [finalAfter_cons_iff]
  constructor
  · rintro (⟨rfl, rfl, -⟩ | ⟨m, rfl, hm⟩)
    · rw [lowerChar_sigma] at h
      cases h
    · rwa [Nat.add_sub_cancel_left]
  · intro hrest
    exact .inr ⟨_, (Nat.add_sub_cancel' h).symm, hrest⟩

theorem length_written (before rest : Text) (c : Char) :
    (if c = 'Σ' then [lowerSigma before rest] else lowerChar c).length = (lowerChar c).length := by
  split
  · next hc =>
    rw [hc, lowerChar_sigma]
    rfl
  · rfl

theorem getElem?_written (before rest : Text) (h : n < (lowerChar c).length) :
    (if c = 'Σ' then [lowerSigma before rest] else lowerChar c)[n]? =
      if c = 'Σ' ∧ facesCased before = true ∧ facesCased rest = false then some 'ς' else (lowerChar c)[n]? := by
  by_cases hc : c = 'Σ'
  · subst hc
    rw [lowerChar_sigma] at h ⊢
    obtain rfl : n = 0 := Nat.lt_one_iff.1 h
    simp only [lowerSigma]
    cases facesCased before <;> cases facesCased rest <;> rfl
  · rw [if_neg hc, if_neg fun hfinal => hc hfinal.1]

theorem length_lowerAfter (before rest : Text) : (lowerAfter before rest).length = (fold rest).length := by
  induction rest generalizing before with
  | nil => rfl
  | cons c rest ih =>
    rw [lowerAfter, fold_cons, List.length_append, List.length_append, length_written, ih]

/-- What stands at a place of the lower-cased text: a final sigma, or what the folded text has there. -/
theorem getElem?_lowerAfter :
    (lowerAfter before rest)[n]? = if FinalAfter before rest n then some 'ς' else (fold rest)[n]? := by
  -- along the scan: the place lies in what the first character gives, or behind it
  induction rest generalizing before n with
  | nil =>
    have hnone : ¬ FinalAfter before [] n := fun ⟨k, hk, _⟩ => Nat.not_lt_zero k hk
    rw [if_neg hnone]
    rfl
  | cons c rest ih =>
    have hlength := length_written before rest c
    rw [lowerAfter, fold_cons]
    rcases Nat.lt_or_ge n (lowerChar c).length with hlt | hge
    · rw [List.getElem?_append_left (hlength.symm ▸ hlt), List.getElem?_append_left hlt, getElem?_written before rest hlt]
      simp only [finalAfter_cons_of_lt hlt]
    · rw [List.getElem?_append_right (hlength.symm ▸ hge), List.getElem?_append_right hge, hlength, ih]
      simp only [finalAfter_cons_of_ge hge]

/-- **The lower-cased text is the folded one, but for the final sigmas.** -/
theorem getElem?_lower (t : Text) (n : Nat) : (lower t)[n]? = if FinalAt t n then some 'ς' else (fold t)[n]? :=
  getElem?_lowerAfter

/-- Folding knows no final form. -/
theorem getElem?_fold_of_finalAt (h : FinalAt t n) : (fold t)[n]? = some 'σ' := by
  obtain ⟨k, hk, hsigma, rfl, -⟩ := h
  have hsplit : t = t.take k ++ 'Σ' :: t.drop (k + 1) := by
    have hget : t[k] = 'Σ' := Option.some.inj ((List.getElem?_eq_getElem hk).symm.trans hsigma)
    rw [← hget, ← List.drop_eq_getElem_cons hk, List.take_append_drop]
  have hfold := congrArg fold hsplit
  rw [fold_append, fold_cons, lowerChar_sigma] at hfold
  rw [hfold, List.getElem?_append_right (Nat.le_refl _), Nat.sub_self]
  rfl

theorem length_lower (t : Text) : (lower t).length = (fold t).length :=
  length_lowerAfter [] t

/-- Two texts have their final sigmas at the same places, as far as the second one goes when its folded form is laid on that
of the first at place `m`. -/
def SigmasAgree (f v : Text) (m : Nat) : Prop :=
  ∀ n < (fold v).length, FinalAt f (m + n) ↔ FinalAt v n

instance {f v : Text} {m : Nat} : Decidable (SigmasAgree f v m) :=
  inferInstanceAs (Decidable (∀ n < (fold v).length, _))

theorem prefix_drop_iff {x t : Text} {m : Nat} : x <+: t.drop m ↔ ∀ n < x.length, t[m + n]? = x[n]? := by
  rw [List.prefix_iff_getElem?]
  refine forall_congr' fun n => forall_congr' fun hn => ?_
  rw [List.getElem?_drop, List.getElem?_eq_getElem hn]

theorem infix_iff_prefix_drop {x t : Text} : x <:+: t ↔ ∃ m, x <+: t.drop m := by
  rw [List.infix_iff_prefix_suffix]
  constructor
  · rintro ⟨rest, hx, before, rfl⟩
    exact ⟨before.length, by rwa [List.drop_left]⟩
  · rintro ⟨m, hx⟩
    exact ⟨_, hx, List.drop_suffix m t⟩

/-- **Where a folded text stands in another, the lower-cased one stands exactly if the final sigmas agree.** -/
theorem lower_prefix_drop_iff (h : fold v <+: (fold f).drop m) :
    lower v <+: (lower f).drop m ↔ SigmasAgree f v m := by
  rw [prefix_drop_iff] at h ⊢
  rw [length_lower]
  refine forall_congr' fun n => forall_congr' fun hn => ?_
  rw [getElem?_lower, getElem?_lower, h n hn]
  constructor
  · intro hplace
    constructor
    · intro hf
      refine Decidable.byContradiction fun hv => ?_
      -- the place would have the final form on one side and the plain one on the other
      have hsigma : (fold v)[n]? = some 'σ' := by rw [← h n hn, getElem?_fold_of_finalAt hf]
      rw [if_pos hf, if_neg hv, hsigma] at hplace
      cases hplace
    · intro hv
      refine Decidable.byContradiction fun hf => ?_
      rw [if_pos hv, if_neg hf, getElem?_fold_of_finalAt hv] at hplace
      cases hplace
  · intro hagree
    simp only [hagree]

/-- Texts that are equal but for case have one lower-case form exactly if their final sigmas agree. -/
theorem lower_infix_iff_of_fold_eq (h : fold f = fold v) : lower v <:+: lower f ↔ SigmasAgree f v 0 := by
  have hlength : (lower v).length = (lower f).length := by rw [length_lower, length_lower, h]
  have hfold : fold v <+: (fold f).drop 0 := h ▸ List.prefix_rfl
  rw [← lower_prefix_drop_iff hfold, List.drop_zero]
  constructor
  · intro hinfix
    exact hinfix.eq_of_length hlength ▸ List.prefix_rfl
  · exact List.IsPrefix.isInfix

theorem fold_prefix_drop (a w b : Text) : fold w <+: (fold (a ++ w ++ b)).drop (fold a).length := by
  rw [fold_append, fold_append, List.append_assoc, List.drop_left]
  exact List.prefix_append ..

/-- **Where no final sigma is written, a lower-cased text stands in another exactly if the folded one does, at a place where
the final sigmas agree.** -/
theorem lower_infix_iff (hf : 'ς' ∉ f) (hv : 'ς' ∉ v) :
    lower v <:+: lower f ↔ ∃ m, fold v <+: (fold f).drop m ∧ SigmasAgree f v m := by
  rw [infix_iff_prefix_drop]
  refine exists_congr fun m => ⟨fun hlower => ?_, fun ⟨hfold, hagree⟩ => (lower_prefix_drop_iff hfold).2 hagree⟩
  have hfold : fold v <+: (fold f).drop m := by
    rw [prefix_drop_iff] at hlower ⊢
    intro n hn
    have hplace := hlower n (length_lower v ▸ hn)
    rw [getElem?_lower, getElem?_lower] at hplace
    -- a final sigma of one side only would have to be written in the other
    by_cases hf' : FinalAt f (m + n) <;> by_cases hv' : FinalAt v n
    · rw [getElem?_fold_of_finalAt hf', getElem?_fold_of_finalAt hv']
    · rw [if_pos hf', if_neg hv'] at hplace
      exact absurd (finalSigma_mem_of_mem_fold (List.mem_of_getElem? hplace.symm)) hv
    · rw [if_neg hf', if_pos hv'] at hplace
      exact absurd (finalSigma_mem_of_mem_fold (List.mem_of_getElem? hplace)) hf
    · rwa [if_neg hf', if_neg hv'] at hplace
  exact ⟨hfold, (lower_prefix_drop_iff hfold).1 hlower⟩

end Text
end GameShelf
