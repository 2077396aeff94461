import FlipSat.Random.Source

/-
  FlipSat: what passes between a computation and its source of random decisions.
  A `Dialogue` is a computation that may ask a source, as a tree: a question has one branch for each
  answer. `run` leads it with a source of any kind. Two things hold of every dialogue and are shown
  here once: a recorded source has recorded exactly the questions on the way (`run_recorded`), and
  sources that answer these alike lead to the same end (`run_alike`).
-/
namespace FlipSat

variable {α β σ τ : Type} [RandomSource σ] [RandomSource τ]

/-- A computation that asks for random decisions. -/
inductive Dialogue (α : Type) where
  | done (a : α)
  | choose (n : Nat) (h : 0 < n) (next : Fin n → Dialogue α)
  | percent (k : Int) (next : Bool → Dialogue α)

/-- Two sources answer the questions alike, when they are put in turn. -/
def Alike : List RandomCall → σ → τ → Prop
  | [], _, _ => True
  | .choose n :: cs, s, t => ∀ h : 0 < n,
    (RandomSource.choose s n h).1 = (RandomSource.choose t n h).1 ∧
      Alike cs (RandomSource.choose s n h).2 (RandomSource.choose t n h).2
  | .percent k :: cs, s, t =>
    (RandomSource.percent s k).1 = (RandomSource.percent t k).1 ∧
      Alike cs (RandomSource.percent s k).2 (RandomSource.percent t k).2

namespace Dialogue

/-- What comes of the dialogue with a source, and the source after it. -/
def run : Dialogue α → σ → α × σ
  | done a, s => (a, s)
  | choose n h next, s =>
    (next (RandomSource.choose s n h).1).run (RandomSource.choose s n h).2
  | percent k next, s => (next (RandomSource.percent s k).1).run (RandomSource.percent s k).2

/-- The questions that a source is asked in the dialogue. -/
def calls : Dialogue α → σ → List RandomCall
  | done _, _ => []
  | choose n h next, s =>
    .choose n :: (next (RandomSource.choose s n h).1).calls (RandomSource.choose s n h).2
  | percent k next, s =>
    .percent k :: (next (RandomSource.percent s k).1).calls (RandomSource.percent s k).2

/-- A function of what comes of a dialogue. -/
def map (f : α → β) : Dialogue α → Dialogue β
  | done a => done (f a)
  | choose n h next => choose n h fun i => (next i).map f
  | percent k next => percent k fun b => (next b).map f

theorem run_map (f : α → β) (d : Dialogue α) (s : σ) :
    (d.map f).run s = (f (d.run s).1, (d.run s).2) := by
  induction d generalizing s with
  | done a => rfl
  | choose n h next ih => exact ih _ _
  | percent k next ih => exact ih _ _

theorem calls_map (f : α → β) (d : Dialogue α) (s : σ) : (d.map f).calls s = d.calls s := by
  induction d generalizing s with
  | done a => rfl
  | choose n h next ih => exact congrArg (_ :: ·) (ih _ _)
  | percent k next ih => exact congrArg (_ :: ·) (ih _ _)

/-- A recorded source answers as the source in it and keeps the questions. -/
theorem run_recorded (d : Dialogue α) (s : σ) (cs : List RandomCall) :
    d.run (⟨s, cs⟩ : Recorded σ) =
      ((d.run s).1, ⟨(d.run s).2, (d.calls s).reverse ++ cs⟩) := by
  induction d generalizing s cs with
  | done a => rfl
  | choose n h next ih =>
    rw [run, calls, List.reverse_cons, List.append_assoc]
    exact ih _ _ _
  | percent k next ih =>
    rw [run, calls, List.reverse_cons, List.append_assoc]
    exact ih _ _ _

/-- Sources that answer the questions of a dialogue alike lead it the same way, and go on as they
    would without it. -/
theorem run_alike {d : Dialogue α} {s : σ} {t : τ} {rest : List RandomCall}
    (h : Alike (d.calls s ++ rest) s t) :
    (d.run t).1 = (d.run s).1 ∧ Alike rest (d.run s).2 (d.run t).2 := by
  induction d generalizing s t with
  | done a => exact ⟨rfl, h⟩
  | choose n hn next ih =>
    obtain ⟨hanswer, hrest⟩ := h hn
    rw [run, run, ← hanswer]
    exact ih _ hrest
  | percent k next ih =>
    obtain ⟨hanswer, hrest⟩ := h
    rw [run, run, ← hanswer]
    exact ih _ hrest

end Dialogue

end FlipSat
