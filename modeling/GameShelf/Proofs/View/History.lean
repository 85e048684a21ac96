import GameShelf.Proofs.Expression
import GameShelf.Proofs.SortKey
import GameShelf.View
/-!
# History — a view after any sequence of calls

A view is settled, up to the order of its games, by the expressions filtered by since the last reset: it shows the games
of the catalog that meet them all, each as often as the catalog has it (`Shows`).  Every call keeps that up
(`shows_call`), whatever it sorts by.
-/
namespace GameShelf
namespace View

/-- What can be asked of a view. -/
inductive Call
  | filter (expression : Text)
  | filterSorted (expression : Text) (column : Column)
  | filterSortedDir (expression : Text) (column : Column) (isAscending : Bool)
  | filterWith (expression : Text) (key? : Option SortKey)
  | reset
deriving DecidableEq

def Call.expression? : Call → Option Text
  | filter e | filterSorted e _ | filterSortedDir e _ _ | filterWith e _ => some e
  | reset => none

def call (view : View) : Call → View
  | .filter e => view.refine e none
  | .filterSorted e c => view.refine e (some (.ascending c))
  | .filterSortedDir e c isAscending => view.refine e (some ⟨c, .ofAscending isAscending⟩)
  | .filterWith e key? => view.refine e key?
  | .reset => view.reset

def after (catalog : List Game) (calls : List Call) : View :=
  calls.foldl call (ofCatalog catalog)

/-- The expressions filtered by since the last reset, after one more call. -/
def remember (es : List Text) (c : Call) : List Text :=
  match c.expression? with
  | some e => es ++ [e]
  | none => []

/-- The expressions filtered by since the last reset, oldest first. -/
def sinceReset (calls : List Call) : List Text :=
  calls.foldl remember []

/-- A view of the catalog, filtered by the expressions since it was last whole. -/
structure Shows (catalog : List Game) (es : List Text) (view : View) : Prop where
  catalog_eq : view.catalog = catalog
  games_perm : view.games.Perm (catalog.filter fun g => (es.flatMap Expression.clauses).all (·.admits g))
  filtered_iff : view.filtered = true ↔ es ≠ []
  games_eq : view.filtered = false → view.games = catalog

theorem shows_ofCatalog (catalog : List Game) : Shows catalog [] (ofCatalog catalog) where
  catalog_eq := rfl
  games_perm := by simp [ofCatalog]
  filtered_iff := by simp [ofCatalog]
  games_eq _ := rfl

theorem games_refine_perm (view : View) (e : Text) (key? : Option SortKey) :
    (view.refine e key?).games.Perm (view.games.filter (Expression.admits e)) := by
  have hname := Column.name.sort_perm (view.games.filter (Expression.admits e))
  cases key? with
  | none => exact hname
  | some key => exact (key.sort_perm _).trans hname

theorem Shows.refine {catalog : List Game} {es : List Text} {view : View} (h : Shows catalog es view) (e : Text)
    (key? : Option SortKey) : Shows catalog (es ++ [e]) (view.refine e key?) where
  catalog_eq := h.catalog_eq
  games_perm := by
    refine (games_refine_perm view e key?).trans ((h.games_perm.filter _).trans ?_)
    rw [List.filter_filter]
    refine List.Perm.of_eq (List.filter_congr fun g _ => ?_)
    simp [Expression.admits, Bool.and_comm]
  filtered_iff := by simp [View.refine]
  games_eq hf := by simp [View.refine] at hf

/-- **One call keeps the view up to date with its history.** -/
theorem shows_call {catalog : List Game} {es : List Text} {view : View} (h : Shows catalog es view) (c : Call) :
    Shows catalog (remember es c) (view.call c) := by
  cases c with
  | filter e => exact h.refine e none
  | filterSorted e c => exact h.refine e (some (.ascending c))
  | filterSortedDir e c isAscending => exact h.refine e (some ⟨c, .ofAscending isAscending⟩)
  | filterWith e key? => exact h.refine e key?
  | reset =>
    rw [show view.call .reset = ofCatalog catalog from congrArg ofCatalog h.catalog_eq]
    exact shows_ofCatalog catalog

theorem shows_foldl {catalog : List Game} : ∀ (calls : List Call) {es : List Text} {view : View},
    Shows catalog es view → Shows catalog (calls.foldl remember es) (calls.foldl call view)
  | [], _, _, h => h
  | c :: calls, _, _, h => shows_foldl calls (shows_call h c)

theorem shows_after (catalog : List Game) (calls : List Call) :
    Shows catalog (sinceReset calls) (after catalog calls) :=
  shows_foldl calls (shows_ofCatalog catalog)

theorem after_append_reset (catalog : List Game) (calls later : List Call) :
    after catalog (calls ++ .reset :: later) = after catalog later := by
  have hreset : (after catalog calls).call .reset = ofCatalog catalog :=
    congrArg ofCatalog (shows_after catalog calls).catalog_eq
  rw [after, List.foldl_append, List.foldl_cons, ← after, hreset]
  rfl

/-- **After any calls**: the catalog is as it was; the view holds the games that meet every clause since the last reset,
each as often as the catalog does; it counts as filtered when there was a filter since, and is the catalog itself when
there was none; and a reset makes all calls before it as if they had not been. -/
theorem view_after_calls (catalog : List Game) (calls : List Call) :
    (after catalog calls).catalog = catalog ∧
    (after catalog calls).games.Perm
      (catalog.filter fun g => ((sinceReset calls).flatMap Expression.clauses).all (·.admits g)) ∧
    ((after catalog calls).filtered = true ↔ sinceReset calls ≠ []) ∧
    ((after catalog calls).filtered = false → (after catalog calls).games = catalog) ∧
    (∀ later : List Call, after catalog (calls ++ .reset :: later) = after catalog later) :=
  let h := shows_after catalog calls
  ⟨h.catalog_eq, h.games_perm, h.filtered_iff, h.games_eq, after_append_reset catalog calls⟩

/-- A view that was filtered and reset is the catalog again, in its own order. -/
theorem view_after_calls_reset :
    (after [.ofName "Go".toList 1, .ofName "Chess".toList 7] [.filterSorted "id > 1".toList .year, .reset]).filtered =
      false ∧
    (after [.ofName "Go".toList 1, .ofName "Chess".toList 7] [.filterSorted "id > 1".toList .year, .reset]).games =
      [.ofName "Go".toList 1, .ofName "Chess".toList 7] :=
  ⟨by decide, (view_after_calls _ _).2.2.2.1 (by decide)⟩

end View
end GameShelf
