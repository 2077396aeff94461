import Std.Data.HashMap
import FlipSat.Fault
import FlipSat.Random.Source

/-
  FlipSat: a set that can be drawn from. Its members stand in an array without gaps, and a map
  knows the slot of each member; removing a member moves the last one into its slot.
-/
namespace FlipSat

/-- A set with its members in slots. -/
structure DenseSet (α : Type) [DecidableEq α] [Hashable α] where
  items : Array α := #[]
  slots : Std.HashMap α Nat := {}

namespace DenseSet

variable {α : Type} [DecidableEq α] [Hashable α]

/-- The members in the order of their slots. -/
def toList (s : DenseSet α) : List α := s.items.toList

def size (s : DenseSet α) : Nat := s.items.size

def isEmpty (s : DenseSet α) : Bool := s.items.isEmpty

def contains (s : DenseSet α) (a : α) : Bool := s.slots.contains a

/-- The members known to the map of slots, in no particular order. -/
def members (s : DenseSet α) : List α := s.slots.keys

/-- Puts a new member into the slot after the last one. -/
def insert (s : DenseSet α) (a : α) : DenseSet α :=
  if s.slots.contains a then s
  else { items := s.items.push a, slots := s.slots.insert a s.items.size }

/-- Takes a member out, and moves the last member into its slot. -/
def erase? (s : DenseSet α) (a : α) : Option (DenseSet α) :=
  match s.slots[a]? with
  | none => none
  | some slot =>
    let slots := s.slots.erase a
    match s.items.back? with
    | none => some { items := s.items, slots := slots }
    | some last =>
      if last = a then some { items := s.items.pop, slots := slots }
      else some { items := s.items.pop.setIfInBounds slot last, slots := slots.insert last slot }

/-- Takes a member out if it is there. -/
def discard (s : DenseSet α) (a : α) : DenseSet α := (s.erase? a).getD s

/-- The set of the members of a list, in its order. -/
def ofList (as : List α) : DenseSet α := as.foldl insert {}

/-- Draws a member; every slot is drawn by one answer of the source. -/
def choose {σ : Type} [RandomSource σ] (s : DenseSet α) (source : σ) :
    Except Fault (α × σ) :=
  if h : 0 < s.items.size then
    let (i, source) := RandomSource.choose source s.items.size h
    .ok (s.items[i], source)
  else .error .emptyChoice

end DenseSet

/-- Integers in ascending order. -/
def sortInts (ns : List Int) : List Int := ns.mergeSort (· ≤ ·)

/-- A set of clauses by their places. -/
def describeClauses (places : List Int) : String :=
  "UnsatisfiedClauseSet([" ++ ", ".intercalate ((sortInts places).map Text.showInt) ++ "])"

end FlipSat
