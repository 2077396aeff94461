/-
  FlipSat: cutting a list at the elements that satisfy a test, and places in lists.
-/
namespace FlipSat

/-- The pieces between the elements that satisfy `p`; there is always at least one piece, and
    the elements cut at are dropped. -/
def splitWhere {α : Type} (p : α → Bool) : List α → List (List α)
  | [] => [[]]
  | a :: s =>
    if p a then [] :: splitWhere p s
    else match splitWhere p s with
      | [] => [[a]]
      | piece :: rest => (a :: piece) :: rest

/-- The pieces that hold something. -/
def nonemptyPieces {α : Type} (p : α → Bool) (s : List α) : List (List α) :=
  (splitWhere p s).filter fun piece => !piece.isEmpty

/-- The place in a list of `n` items that an index stands for; negative ones count from the
    end. -/
def listPlace? (n : Nat) (i : Int) : Option Nat :=
  if 0 ≤ i ∧ i < n then some i.toNat
  else if i < 0 ∧ -(n : Int) ≤ i then some (i + n).toNat
  else none

end FlipSat
