import FlipSat.Formula.Basic

/-
  FlipSat: propositions and literals. A proposition has a name and a place in the vocabulary that
  it belongs to.
-/
namespace FlipSat

/-- A named truth variable. Propositions of different vocabularies are different, even with the
    same name at the same place. -/
structure Proposition where
  name : String
  index : Int
  vocabulary : Nat := 0
deriving DecidableEq, Repr, Inhabited

/-- Where a proposition of a vocabulary stands. -/
def Proposition.place (p : Proposition) : Nat := p.index.toNat

def Proposition.describe (p : Proposition) : String :=
  "Proposition(" ++ Text.quoted p.name ++ ", " ++ Text.showInt p.index ++ ")"

/-- A proposition with a polarity. -/
structure Literal where
  proposition : Proposition
  isPositive : Bool := true
deriving DecidableEq, Repr, Inhabited

namespace Literal

def negated (l : Literal) : Literal := { l with isPositive := !l.isPositive }

/-- The literal in the line format. -/
def text (l : Literal) : String :=
  if l.isPositive then l.proposition.name else "!" ++ l.proposition.name

def describe (l : Literal) : String :=
  "Literal(proposition=" ++ l.proposition.describe ++ ", is_positive=" ++
    (if l.isPositive then "True" else "False") ++ ")"

@[simp] theorem negated_negated (l : Literal) : l.negated.negated = l := by
  simp [negated]

end Literal

/-- The clauses that mention a proposition, by polarity, in the order in which they were met;
    `complementary` are those that mention it both ways. -/
structure Occurrences (ι : Type) where
  positive : Array ι := #[]
  negative : Array ι := #[]
  complementary : Array ι := #[]
deriving DecidableEq, Repr, Inhabited

namespace Occurrences

variable {ι : Type} [DecidableEq ι]

/-- Notes that clause `i` mentions the proposition. If `i` was the last clause to mention it the
    other way, the clause mentions it both ways. -/
def register (o : Occurrences ι) (i : ι) (isPositive : Bool) : Occurrences ι :=
  if isPositive then
    { positive := o.positive.push i
      negative := o.negative
      complementary :=
        if o.negative.back? = some i then o.complementary.push i else o.complementary }
  else
    { positive := o.positive
      negative := o.negative.push i
      complementary :=
        if o.positive.back? = some i then o.complementary.push i else o.complementary }

/-- The number of mentions, counted per polarity. -/
def size (o : Occurrences ι) : Nat := o.positive.size + o.negative.size

end Occurrences

end FlipSat
