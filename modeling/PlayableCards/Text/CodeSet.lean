/-!
# Sets of code points

A set is its list of edges, in ascending order: the code points at which membership changes.
-/

namespace PlayableCards
namespace Text

structure CodeSet where
  edges : List Nat

namespace CodeSet

/-- Whether `n` is inside once every edge up to it has been crossed. -/
def crossed : List Nat → Nat → Bool → Bool
  | [], _, inside => inside
  | edge :: edges, n, inside => if n < edge then inside else crossed edges n (!inside)

def contains (s : CodeSet) (c : Char) : Bool := crossed s.edges c.toNat false

theorem crossed_of_lt {edge : Nat} {edges : List Nat} {n : Nat} {inside : Bool} (h : n < edge) :
    crossed (edge :: edges) n inside = inside := by
  simp [crossed, h]

theorem crossed_of_le {edge : Nat} {edges : List Nat} {n : Nat} {inside : Bool} (h : edge ≤ n) :
    crossed (edge :: edges) n inside = crossed edges n (!inside) := by
  simp [crossed, Nat.not_lt.mpr h]

end CodeSet

end Text
end PlayableCards
