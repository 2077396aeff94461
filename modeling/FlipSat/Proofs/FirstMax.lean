import Mathlib.Order.Lattice

/-
  FlipSat: the first entry of a list with the largest score.
  `FirstMax.concat`: when a list is read from the front and an entry replaces the best one so far
  only if its score is larger, what is left at the end is the first maximum.
-/
namespace FlipSat

/-- Entries before `a` have smaller scores, and entries after it no larger ones. -/
def FirstMax {α β : Type} [LinearOrder β] (score : α → β) (as : List α) (a : α) : Prop :=
  ∃ before after, as = before ++ a :: after ∧ (∀ b ∈ before, score b < score a) ∧
    ∀ b ∈ after, score b ≤ score a

namespace FirstMax

variable {α β : Type} [LinearOrder β] {score : α → β} {as : List α} {a b : α}

theorem singleton (score : α → β) (a : α) : FirstMax score [a] a :=
  ⟨[], [], rfl, by simp, by simp⟩

theorem last (h : ∀ b ∈ as, score b < score a) : FirstMax score (as ++ [a]) a :=
  ⟨as, [], rfl, h, by simp⟩

theorem mem (h : FirstMax score as a) : a ∈ as := by
  obtain ⟨before, after, rfl, -, -⟩ := h
  simp

theorem le (h : FirstMax score as a) (hb : b ∈ as) : score b ≤ score a := by
  obtain ⟨before, after, rfl, hlt, hle⟩ := h
  rcases List.mem_append.mp hb with hb | hb
  · exact le_of_lt (hlt b hb)
  · rcases List.mem_cons.mp hb with rfl | hb
    · exact le_refl _
    · exact hle b hb

theorem congr {score' : α → β} (h : FirstMax score as a) (hs : ∀ b ∈ as, score b = score' b) :
    FirstMax score' as a := by
  have ha := hs a h.mem
  obtain ⟨before, after, rfl, hlt, hle⟩ := h
  refine ⟨before, after, rfl, fun b hb => ?_, fun b hb => ?_⟩
  · rw [← hs b (by simp [hb]), ← ha]
    exact hlt b hb
  · rw [← hs b (by simp [hb]), ← ha]
    exact hle b hb

theorem concat (h : FirstMax score as a) (b : α) :
    FirstMax score (as ++ [b]) (if score a < score b then b else a) := by
  by_cases hab : score a < score b
  · rw [if_pos hab]
    exact ⟨as, [], rfl, fun c hc => lt_of_le_of_lt (h.le hc) hab, by simp⟩
  · rw [if_neg hab]
    obtain ⟨before, after, rfl, hlt, hle⟩ := h
    refine ⟨before, after ++ [b], by simp, hlt, fun c hc => ?_⟩
    rcases List.mem_append.mp hc with hc | hc
    · exact hle c hc
    · rw [List.mem_singleton.mp hc]
      exact le_of_not_gt hab

end FirstMax

end FlipSat
