/-!
# CharClass — sets of characters given by intervals of code points
-/
namespace GameShelf

/-- A set of characters, as the intervals of its code points with both ends included. -/
structure CharClass where
  intervals : List (Nat × Nat)

namespace CharClass

def has (s : CharClass) (c : Char) : Bool :=
  s.intervals.any fun (first, last) => first ≤ c.toNat && c.toNat ≤ last

end CharClass
end GameShelf
