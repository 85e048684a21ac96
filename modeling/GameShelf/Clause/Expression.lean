import GameShelf.Event
/-!
# Expression — filter expressions, read without ever failing

An expression is clauses with commas between them.  A piece that is no clause is dropped with a
warning; blank pieces do not count.  So an expression can only widen by a slip, never fail.
-/
namespace GameShelf
namespace Clause

/-- Reads one clause, and reports on it.  The operator's token must not occur again to the right of
where it was first found. -/
def parse (raw : Text) : Option Clause × List Event :=
  let raw := Text.trim raw
  let drop (reason : Rejection) : Option Clause × List Event := (none, [.clauseDropped raw reason])
  match Operator.locate raw with
  | none => drop .noOperator
  | some found =>
    let left := Text.trim found.left
    let right := Text.trim found.right
    if Text.contains found.token found.right then drop (.repeatedOperator found.token)
    else if left.isEmpty || right.isEmpty then drop .missingPart
    else match Column.resolve left with
      | none => drop (.unknownColumn left)
      | some column =>
        let clause : Clause := ⟨column, found.operator, right⟩
        (some clause, [.clauseRead clause])

def read? (raw : Text) : Option Clause :=
  (parse raw).1

end Clause

namespace Expression

/-- The pieces of an expression that are not blank, without the white space around them. -/
def pieces (expression : Text) : List Text :=
  ((expression.splitOn ',').map Text.trim).filter (!·.isEmpty)

/-- Reads the clauses of an expression, and reports on it piece by piece. -/
def parse (expression : Text) : List Clause × List Event :=
  let parsed := (pieces expression).map Clause.parse
  (parsed.filterMap (·.1), parsed.flatMap (·.2))

def clauses (expression : Text) : List Clause :=
  (parse expression).1

def reports (expression : Text) : List Event :=
  (parse expression).2

def admits (expression : Text) (g : Game) : Bool :=
  (clauses expression).all (·.admits g)

end Expression
end GameShelf
