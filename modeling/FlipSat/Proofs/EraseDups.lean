import Mathlib.Data.List.Nodup
import Mathlib.Data.List.Induction

/-
  FlipSat: lists from which repetitions are erased, each member kept where it stands first.
  The result has no repetition, a list without repetition stays as it is, and erasing goes through
  appending and through maps that keep members apart.
-/
namespace FlipSat

variable {α β : Type} [DecidableEq α] [DecidableEq β]

theorem eraseDups_concat (as : List α) (a : α) :
    (as ++ [a]).eraseDups = if a ∈ as then as.eraseDups else as.eraseDups ++ [a] := by
  rw [List.eraseDups_append]
  by_cases h : a ∈ as <;> simp [List.removeAll, List.eraseDups_cons, h]

theorem nodup_eraseDups (as : List α) : as.eraseDups.Nodup := by
  induction as using List.reverseRecOn with
  | nil => simp
  | append_singleton as a ih =>
    rw [eraseDups_concat]
    split
    · exact ih
    · next h => exact List.nodup_append.mpr ⟨ih, by simp, by simp; grind⟩

theorem eraseDups_of_nodup {as : List α} (h : as.Nodup) : as.eraseDups = as := by
  induction as using List.reverseRecOn with
  | nil => rfl
  | append_singleton as a ih =>
    obtain ⟨has, -, hne⟩ := List.nodup_append.mp h
    have ha : a ∉ as := fun hm => hne a hm a (by simp) rfl
    rw [eraseDups_concat, if_neg ha, ih has]

/-- A repetition may be erased early. -/
theorem eraseDups_eraseDups_append (as bs : List α) :
    (as.eraseDups ++ bs).eraseDups = (as ++ bs).eraseDups := by
  rw [List.eraseDups_append, List.eraseDups_append, eraseDups_of_nodup (nodup_eraseDups as)]
  simp [List.removeAll]

theorem map_eraseDups {f : α → β} {as : List α}
    (h : ∀ a ∈ as, ∀ b ∈ as, f a = f b → a = b) :
    as.eraseDups.map f = (as.map f).eraseDups := by
  induction as using List.reverseRecOn with
  | nil => rfl
  | append_singleton as a ih =>
    have hmem : f a ∈ as.map f ↔ a ∈ as := by
      constructor
      · intro hm
        obtain ⟨b, hb, he⟩ := List.mem_map.mp hm
        exact h b (by simp [hb]) a (by simp) he ▸ hb
      · exact List.mem_map_of_mem
    have hih := ih fun b hb c hc => h b (by simp [hb]) c (by simp [hc])
    rw [List.map_append, List.map_singleton, eraseDups_concat, eraseDups_concat, ← hih]
    by_cases ha : a ∈ as
    · rw [if_pos ha, if_pos (hmem.mpr ha)]
    · rw [if_neg ha, if_neg (fun hm => ha (hmem.mp hm)), List.map_append, List.map_singleton]

end FlipSat
