import GameShelf.Proofs.Command.Run
import GameShelf.Proofs.View.Narrowing
import Mathlib.Data.List.Forall2
/-!
# Event — what the reports tell

Of each piece of an expression that is not blank there is one report: of its clause if it is one, and else of what is wrong
with it (`exists_tells`).  So the reports on an expression tell its pieces one by one, and with them its clauses
(`forall₂_reports`, `account_of_forall₂`).  Among all that a run reports are the reports on its expressions, one
expression behind the other, and no others of the kind (`run_reports`).
-/
namespace GameShelf

/-! ## What is wrong with a text -/

namespace Clause

variable {raw : Text} {reason : Rejection}

/-- What is wrong with a text that is no clause: it has no operator; or its operator's token stands behind the operator
again; or there is nothing on one side of the operator; or what is on the left is no column. -/
inductive Flaw (raw : Text) : Rejection → Prop
  | noOperator (h : ∀ entry ∈ Operator.tokenTable, ¬ entry.1 <:+: Text.trim raw) : Flaw raw .noOperator
  | repeatedOperator {found : Operator.Occurrence} (located : Operator.locate (Text.trim raw) = some found)
      (again : found.token <:+: found.right) : Flaw raw (.repeatedOperator found.token)
  | missingPart {found : Operator.Occurrence} (located : Operator.locate (Text.trim raw) = some found)
      (once : ¬ found.token <:+: found.right) (missing : Text.trim found.left = [] ∨ Text.trim found.right = []) :
      Flaw raw .missingPart
  | unknownColumn {found : Operator.Occurrence} (located : Operator.locate (Text.trim raw) = some found)
      (once : ¬ found.token <:+: found.right) (left : Text.trim found.left ≠ []) (right : Text.trim found.right ≠ [])
      (unknown : Column.resolve (Text.trim found.left) = none) : Flaw raw (.unknownColumn (Text.trim found.left))

/-- **A text is read or dropped, with one report**, of the clause or of the first thing that is wrong. -/
theorem parse_cases (raw : Text) : (∃ c, parse raw = (some c, [.clauseRead c])) ∨
    ∃ reason, parse raw = (none, [.clauseDropped (Text.trim raw) reason]) ∧ Flaw raw reason := by
  simp only [parse]
  cases hlocate : Operator.locate (Text.trim raw) with
  | none => exact .inr ⟨_, rfl, .noOperator (Operator.locate_eq_none_iff.1 hlocate)⟩
  | some found =>
    cases hagain : Text.contains found.token found.right with
    | true => exact .inr ⟨_, if_pos hagain, .repeatedOperator hlocate (Text.contains_iff.1 hagain)⟩
    | false =>
      have honce : ¬ found.token <:+: found.right := Text.contains_eq_false_iff.1 hagain
      dsimp only
      rw [if_neg (Bool.eq_false_iff.1 hagain)]
      by_cases hmissing : ((Text.trim found.left).isEmpty || (Text.trim found.right).isEmpty) = true
      · exact .inr ⟨_, if_pos hmissing, .missingPart hlocate honce (by simpa using hmissing)⟩
      · obtain ⟨hleft, hright⟩ : Text.trim found.left ≠ [] ∧ Text.trim found.right ≠ [] := by simpa using hmissing
        rw [if_neg hmissing]
        cases hcolumn : Column.resolve (Text.trim found.left) with
        | none => exact .inr ⟨_, rfl, .unknownColumn hlocate honce hleft hright hcolumn⟩
        | some column => exact .inl ⟨_, rfl⟩

/-- **A text is dropped for what is wrong with it**, and for nothing else. -/
theorem parse_eq_dropped_iff : parse raw = (none, [.clauseDropped (Text.trim raw) reason]) ↔ Flaw raw reason := by
  constructor
  · intro h
    obtain ⟨c, hread⟩ | ⟨other, hdropped, hflaw⟩ := parse_cases raw
    · cases hread.symm.trans h
    · cases hdropped.symm.trans h
      exact hflaw
  · rintro (hnone | ⟨hlocate, hagain⟩ | ⟨hlocate, honce, hmissing⟩ | ⟨hlocate, honce, hleft, hright, hunknown⟩)
    · simp [parse, Operator.locate_eq_none_iff.2 hnone]
    · simp [parse, hlocate, Text.contains_iff.2 hagain]
    · simp [parse, hlocate, Text.contains_eq_false_iff.2 honce, hmissing]
    · simp [parse, hlocate, Text.contains_eq_false_iff.2 honce, hleft, hright, hunknown]

theorem parse_trim (raw : Text) : parse (Text.trim raw) = parse raw := by
  rw [parse, parse, Text.trim_trim]

end Clause

/-! ## Reports on a piece -/

namespace Event

/-- The record tells of this text: at debug level of the clause that it is, in its printed form; or at warning level of the
text itself, trimmed and in quotes, and of what is wrong with it. -/
inductive Tells (raw : Text) (e : Event) : Prop
  | clause (c : Clause) (read : Clause.read? raw = some c) (level : e.level = .debug)
      (message : e.message = "parsed clause: " ++ String.ofList c.print)
  | dropped (reason : Clause.Rejection) (unread : Clause.read? raw = none) (flaw : Clause.Flaw raw reason)
      (level : e.level = .warn)
      (message : e.message =
        "dropping clause " ++ String.ofList (Text.quoted (Text.trim raw)) ++ ": " ++ reason.message)

theorem message_clauseRead (c : Clause) : (clauseRead c).message = "parsed clause: " ++ String.ofList c.print := rfl

theorem message_clauseDropped (piece : Text) (reason : Clause.Rejection) :
    (clauseDropped piece reason).message =
      "dropping clause " ++ String.ofList (Text.quoted piece) ++ ": " ++ reason.message := rfl

/-- **There is one report on a piece, and it tells of it.** -/
theorem exists_tells (raw : Text) : ∃ e, (Clause.parse raw).2 = [e] ∧ Tells raw e := by
  obtain ⟨c, hread⟩ | ⟨reason, hdropped, hflaw⟩ := Clause.parse_cases raw
  · exact ⟨_, congrArg Prod.snd hread, .clause c (congrArg Prod.fst hread) rfl (message_clauseRead c)⟩
  · exact ⟨_, congrArg Prod.snd hdropped,
      .dropped reason (congrArg Prod.fst hdropped) hflaw rfl (message_clauseDropped _ reason)⟩

end Event

/-! ## Reports on an expression -/

/-- The pieces of an expression are what stands between its commas and is not blank, trimmed. -/
theorem Expression.pieces_eq (e : Text) :
    pieces e = ((e.splitOn ',').filter fun piece => !Text.isBlank piece).map Text.trim := by
  rw [pieces, List.filter_map]
  refine congrArg (List.map Text.trim) (List.filter_congr fun piece _ => ?_)
  rw [Function.comp_apply, Bool.not_inj_iff, Bool.eq_iff_iff, List.isEmpty_iff, Text.trim_eq_nil_iff]

theorem Expression.clauses_eq (e : Text) :
    clauses e = ((e.splitOn ',').filter fun piece => !Text.isBlank piece).filterMap Clause.read? := by
  rw [clauses_eq_filterMap, pieces_eq, List.filterMap_map]
  refine List.filterMap_congr fun raw _ => ?_
  rw [Function.comp_apply, Clause.read?, Clause.parse_trim, Clause.read?]

namespace Event

variable {raws : List Text} {events : List Event} {e : Text}

theorem forall₂_parse (raws : List Text) :
    List.Forall₂ Tells raws (raws.flatMap fun raw => (Clause.parse raw).2) := by
  induction raws with
  | nil => exact .nil
  | cons raw raws ih =>
    obtain ⟨e, hparse, htells⟩ := exists_tells raw
    rw [List.flatMap_cons, hparse, List.singleton_append]
    exact .cons htells ih

theorem forall₂_reports (e : Text) :
    List.Forall₂ Tells ((e.splitOn ',').filter fun piece => !Text.isBlank piece) (Expression.reports e) := by
  rw [Expression.reports_eq_flatMap, Expression.pieces_eq, List.flatMap_map]
  simp only [Clause.parse_trim]
  exact forall₂_parse _

/-- **Where each text has its report, every clause among the texts is told of and every other text warned of.** -/
theorem account_of_forall₂ (h : List.Forall₂ Tells raws events) :
    (events.filter (·.level = .debug)).map message =
        (raws.filterMap Clause.read?).map (fun c => "parsed clause: " ++ String.ofList c.print) ∧
      events.countP (·.level = .warn) + (raws.filterMap Clause.read?).length = raws.length := by
  induction h with
  | nil => exact ⟨rfl, rfl⟩
  | @cons raw event raws events htells _ ih =>
    obtain ⟨hmessages, hcount⟩ := ih
    cases htells with
    | clause c hread hlevel hmessage =>
      rw [List.filterMap_cons_some hread]
      constructor
      · rw [List.filter_cons_of_pos (by simp [hlevel]), List.map_cons, hmessage, hmessages, List.map_cons]
      · rw [List.countP_cons_of_neg (by simp [hlevel]), List.length_cons, List.length_cons, ← hcount, Nat.add_assoc]
    | dropped reason hnone hflaw hlevel hmessage =>
      rw [List.filterMap_cons_none hnone]
      constructor
      · rw [List.filter_cons_of_neg (by simp [hlevel]), hmessages]
      · rw [List.countP_cons_of_pos (by simp [hlevel]), List.length_cons, ← hcount, Nat.add_right_comm]

/-- **No clause is dropped in silence.**  The reports on an expression are, in order, one for each of its pieces that is not
blank: of the clause that the piece is, in its printed form, or a warning that quotes the piece and says what is wrong with
it.  The clauses of the expression are those of its pieces, in order, and are the ones reported; so there are as many
warnings as there are pieces without a clause. -/
theorem reports_account (e : Text) :
    let raws := (e.splitOn ',').filter fun piece => !Text.isBlank piece
    let reports := Expression.reports e
    let clauses := Expression.clauses e
    List.Forall₂ Tells raws reports ∧
    clauses = raws.filterMap Clause.read? ∧
    (reports.filter (·.level = .debug)).map message =
      clauses.map (fun c => "parsed clause: " ++ String.ofList c.print) ∧
    reports.countP (·.level = .warn) + clauses.length = raws.length := by
  intro raws reports clauses
  have hclauses : clauses = raws.filterMap Clause.read? := Expression.clauses_eq e
  have htells : List.Forall₂ Tells raws reports := forall₂_reports e
  rw [hclauses]
  exact ⟨htells, rfl, account_of_forall₂ htells⟩

/-- Of six pieces, one is blank, one is a clause, and the others each have another flaw. -/
example : (Expression.reports "go, Year=<5, ,=,rank>1>2,colour == red".toList).map message =
    ["dropping clause \"go\": no operator", "parsed clause: yearpublished <= 5",
      "dropping clause \"=\": missing column or value", "dropping clause \"rank>1>2\": expected one '>'",
      "dropping clause \"colour == red\": unknown column \"colour\""] := by decide +kernel

end Event

/-! ## Reports of a run -/

namespace Event

/-- Whether an event is a report on an expression. -/
def ofReading (e : Event) : Bool :=
  e.topic = "meeple_seeker::parse"

theorem ofReading_of_mem_reports {e : Text} {event : Event} (h : event ∈ Expression.reports e) :
    event.ofReading = true := by
  rw [Expression.reports_eq_flatMap] at h
  obtain ⟨piece, -, hevent⟩ := List.mem_flatMap.1 h
  obtain ⟨c, hread⟩ | ⟨reason, hdropped, -⟩ := Clause.parse_cases piece
  · rw [hread] at hevent
    rw [List.mem_singleton.1 hevent]
    rfl
  · rw [hdropped] at hevent
    rw [List.mem_singleton.1 hevent]
    rfl

/-- **Expressions joined by commas are reported on one by one.** -/
theorem reports_joinCommas (es : List Text) :
    Expression.reports (Text.joinCommas es) = es.flatMap Expression.reports := by
  rw [Expression.reports_eq_flatMap, Expression.pieces_joinCommas, List.flatMap_assoc]
  exact List.flatMap_congr fun e _ => (Expression.reports_eq_flatMap e).symm

end Event

namespace Command

open Event (ofReading)

theorem filter_refine (view : View) (e : Text) (key? : Option SortKey) :
    (refine view e key?).2.filter ofReading = Expression.reports e := by
  show List.filter ofReading (Expression.reports e ++ [_]) = _
  rw [List.filter_append, List.filter_eq_self.2 fun event => Event.ofReading_of_mem_reports]
  exact List.append_nil _

/-- **The filters of a command are reported on piece by piece**, in order, whatever is reported of the views. -/
theorem narrow_reports (key : SortKey) : ∀ (view : View) (filters : List Text),
    (narrow key view filters).2.filter ofReading = filters.flatMap Expression.reports
  | _, [] => filter_refine _ [] _
  | view, [e] => by rw [narrow, filter_refine, List.flatMap_singleton]
  | view, e :: next :: rest => by
    rw [narrow, List.filter_append, narrow_reports key _ (next :: rest), filter_refine]
    rfl

theorem filter_addAll (candidates : List Game) (list : Shortlist) (tokens : List Text) :
    (addAll candidates list tokens).2.filter ofReading = [] := by
  induction tokens generalizing list with
  | nil => rfl
  | cons token rest ih =>
    rw [addAll]
    split
    · rfl
    · next next _ _ => exact ih next

theorem filter_removeAll (list : Shortlist) (tokens : List Text) :
    (removeAll list tokens).2.filter ofReading = [] := by
  induction tokens generalizing list with
  | nil => rfl
  | cons token rest ih =>
    rw [removeAll]
    split
    · rfl
    · next next lost _ => exact ih next

theorem filter_choose (candidates : List Game) (adds removes : List Text) :
    (choose candidates adds removes).2.filter ofReading = [] := by
  have hadds := filter_addAll candidates .empty adds
  rw [choose]
  rcases haddAll : addAll candidates .empty adds with ⟨failure | list, events⟩
  · rwa [haddAll] at hadds
  · rw [haddAll] at hadds
    rw [List.filter_append, hadds, filter_removeAll, List.append_nil]

theorem filter_answer (o : Options) (catalog : List Game) :
    (answer o catalog).2.filter ofReading = o.filters.flatMap Expression.reports := by
  rw [← narrow_reports o.sort (.ofCatalog catalog) o.filters]
  rcases hnarrow : narrow o.sort (.ofCatalog catalog) o.filters with ⟨view, events⟩
  simp only [answer, hnarrow]
  split
  · rw [List.filter_append, List.filter_append]
    split <;> simp [ofReading, Event.topic]
  · rw [List.filter_append, List.filter_append, filter_choose, List.append_nil]
    exact List.append_nil _

/-- **A run reports on its expressions, one behind the other, and on no other text.** -/
theorem run_reports (device : Files.Device) (o : Options) (catalog : List Game) (files : Files.Tree) :
    (run device o catalog files).events.filter ofReading = o.filters.flatMap Expression.reports := by
  rw [← filter_answer o catalog]
  rcases hanswer : answer o catalog with ⟨failure | games | list, events⟩
  · simp only [run_eq, hanswer]
  · simp only [run_eq, hanswer]
  · simp only [run_eq, hanswer]
    split
    · rfl
    · next path? _ =>
      rcases Export.write device files path? list.names with ⟨after, fault | path⟩
      · exact congrArg (List.filter ofReading) (List.append_nil events)
      · rw [saved, List.filter_append]
        exact List.append_nil _

end Command
end GameShelf
