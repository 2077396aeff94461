import FlipSat.Text.Blank
import Mathlib.Data.List.DropRight

/-
  FlipSat: what cutting a text and trimming it do to what was put together.
  Cutting is the library's `splitOnP` (`splitWhere_eq`), so a text that was joined at a separator is
  cut into the pieces it was joined from. Trimming forgets blanks at either end (`trim_append`,
  `trim_blank_append`) and nothing else: a text that neither starts nor ends with a blank stays as
  it is (`trim_eq_self_iff`), and every trimmed text is of this kind (`trim_trim`). Blanks around a
  whole text add blank lines to it, one for each line break among them, and leave its other lines as
  they are up to trimming (`rows_blank_append`, `rows_append_blank`).
-/
namespace FlipSat

/-! ## Cutting -/

variable {α : Type} {p : α → Bool}

theorem splitWhere_eq (p : α → Bool) (s : List α) : splitWhere p s = s.splitOnP p := by
  induction s with
  | nil => rw [splitWhere, List.splitOnP_nil]
  | cons a s ih =>
    rw [splitWhere, List.splitOnP_cons_eq_if_modifyHead, ih]
    cases hs : s.splitOnP p with
    | nil => exact absurd hs (List.splitOnP_ne_nil p s)
    | cons piece rest => rfl

/-- A piece holds elements of the whole, and none that is cut at. -/
theorem mem_of_mem_splitOnP {s piece : List α} (h : piece ∈ s.splitOnP p) :
    ∀ a ∈ piece, a ∈ s ∧ p a = false := by
  induction s generalizing piece with
  | nil =>
    rw [List.splitOnP_nil, List.mem_singleton] at h
    simp [h]
  | cons b s ih =>
    rw [List.splitOnP_cons_eq_if_modifyHead] at h
    cases hb : p b with
    | true =>
      rw [if_pos hb] at h
      rcases List.mem_cons.mp h with rfl | h
      · simp
      · exact fun a ha => ⟨List.mem_cons_of_mem _ (ih h a ha).1, (ih h a ha).2⟩
    | false =>
      obtain ⟨first, rest, hs⟩ := List.exists_cons_of_ne_nil (List.splitOnP_ne_nil p s)
      rw [if_neg (by simp [hb]), hs, List.modifyHead_cons] at h
      rw [hs] at ih
      have hkept : ∀ q ∈ first :: rest, ∀ a ∈ q, a ∈ b :: s ∧ p a = false := fun q hq a ha =>
        ⟨List.mem_cons_of_mem _ (ih hq a ha).1, (ih hq a ha).2⟩
      rcases List.mem_cons.mp h with rfl | h
      · intro a ha
        rcases List.mem_cons.mp ha with rfl | ha
        · exact ⟨List.mem_cons_self, hb⟩
        · exact hkept first (by simp) a ha
      · exact hkept piece (by simp [h])

/-- No piece holds an element that is cut at. -/
theorem not_of_mem_splitOnP {s piece : List α} (h : piece ∈ s.splitOnP p) :
    ∀ a ∈ piece, p a = false := fun a ha => (mem_of_mem_splitOnP h a ha).2

/-- What is added at the end goes to the last piece, unless it holds something to cut at. -/
theorem splitOnP_append (p : α → Bool) (s : List α) : ∃ front last,
    s.splitOnP p = front ++ [last] ∧
      ∀ t, (∀ a ∈ t, p a = false) → (s ++ t).splitOnP p = front ++ [last ++ t] := by
  induction s with
  | nil => exact ⟨[], [], List.splitOnP_nil, fun t ht => List.splitOnP_eq_singleton ht⟩
  | cons c s ih =>
    obtain ⟨front, last, hs, hst⟩ := ih
    simp only [List.cons_append, List.splitOnP_cons_eq_if_modifyHead, hs]
    cases p c with
    | true => exact ⟨[] :: front, last, rfl, fun t ht => by rw [hst t ht]; rfl⟩
    | false =>
      cases front with
      | nil => exact ⟨[], c :: last, rfl, fun t ht => by rw [hst t ht]; rfl⟩
      | cons first front =>
        exact ⟨(c :: first) :: front, last, rfl, fun t ht => by rw [hst t ht]; rfl⟩

theorem nonemptyPieces_eq (p : α → Bool) (s : List α) :
    nonemptyPieces p s = (s.splitOnP p).filter fun piece => !piece.isEmpty := by
  rw [nonemptyPieces, splitWhere_eq]

namespace Text

variable {s t : List Char}

theorem splitOn_eq (sep : Char) (s : List Char) : splitOn sep s = s.splitOn sep := by
  rw [splitOn, splitWhere_eq, List.splitOn_eq_splitOnP]

/-! ## Trimming -/

theorem trim_eq (s : List Char) : trim s = (s.dropWhile isBlank).rdropWhile isBlank := rfl

theorem trim_eq_nil_iff : trim s = [] ↔ ∀ c ∈ s, isBlank c = true := by
  rw [trim_eq, List.rdropWhile_eq_nil_iff]
  constructor
  · intro h c hc
    rw [← List.takeWhile_append_dropWhile (p := isBlank) (l := s), List.mem_append] at hc
    rcases hc with hc | hc
    · exact List.mem_takeWhile_imp hc
    · exact h c hc
  · exact fun h c hc => h c ((List.dropWhile_suffix isBlank).subset hc)

theorem mem_of_mem_trim {c : Char} (h : c ∈ trim s) : c ∈ s :=
  (List.dropWhile_suffix isBlank).subset ((List.rdropWhile_prefix isBlank _).subset h)

/-- Blanks at the end do not count. -/
theorem trim_append (s : List Char) (ht : ∀ c ∈ t, isBlank c = true) : trim (s ++ t) = trim s := by
  have hend : ∀ r : List Char, (r ++ t).rdropWhile isBlank = r.rdropWhile isBlank := by
    intro r
    rw [List.rdropWhile, List.reverse_append, List.dropWhile_append_of_pos (by simpa using ht)]
    rfl
  rw [trim_eq, trim_eq, List.dropWhile_append]
  cases hs : s.dropWhile isBlank with
  | nil =>
    rw [List.isEmpty_nil, if_pos rfl, List.dropWhile_eq_nil_iff.mpr ht]
  | cons c r =>
    rw [List.isEmpty_cons, if_neg (by decide), hend]

/-- Nor do blanks at the start. -/
theorem trim_blank_append (ht : ∀ c ∈ t, isBlank c = true) (s : List Char) :
    trim (t ++ s) = trim s := by
  rw [trim_eq, List.dropWhile_append_of_pos ht, trim_eq]

/-- A text stays as it is if it neither starts nor ends with a blank. -/
theorem trim_eq_self_iff : trim s = s ↔
    (∀ c ∈ s.head?, isBlank c = false) ∧ ∀ c ∈ s.getLast?, isBlank c = false := by
  have hfirst : s.dropWhile isBlank = s ↔ ∀ c ∈ s.head?, isBlank c = false := by
    cases s <;> simp [List.dropWhile_eq_self_iff]
  have hlast : s.rdropWhile isBlank = s ↔ ∀ c ∈ s.getLast?, isBlank c = false := by
    rw [List.rdropWhile_eq_self_iff]
    constructor
    · intro h c hc
      have hne : s ≠ [] := by rintro rfl; simp at hc
      rw [List.getLast?_eq_some_getLast hne, Option.mem_some] at hc
      rw [← hc]
      simpa using h hne
    · intro h hne
      simpa using h _ (List.getLast?_eq_some_getLast hne)
  rw [← hfirst, ← hlast, trim_eq]
  constructor
  · intro h
    have hlen : s.length ≤ (s.dropWhile isBlank).length := by
      have := (List.rdropWhile_prefix isBlank (s.dropWhile isBlank)).length_le
      rwa [h] at this
    have hd := (List.dropWhile_suffix isBlank (l := s)).eq_of_length_le hlen
    rw [hd] at h
    exact ⟨hd, h⟩
  · rintro ⟨h1, h2⟩
    rw [h1, h2]

/-- A trimmed text is trimmed. -/
theorem trim_trim (s : List Char) : trim (trim s) = trim s := by
  rw [trim_eq_self_iff]
  constructor
  · intro c hc
    obtain ⟨t, ht⟩ := List.rdropWhile_prefix isBlank (s.dropWhile isBlank)
    have hd : c ∈ (s.dropWhile isBlank).head? := by
      rw [← ht, List.head?_append, ← trim_eq, Option.mem_def.mp hc]
      rfl
    have hnot := List.head?_dropWhile_not isBlank s
    rw [Option.mem_def.mp hd] at hnot
    exact hnot
  · intro c hc
    have hne : trim s ≠ [] := by
      intro hn
      rw [hn] at hc
      simp at hc
    rw [List.getLast?_eq_some_getLast hne, Option.mem_some] at hc
    rw [← hc]
    exact Bool.eq_false_iff.mpr (List.rdropWhile_last_not isBlank (s.dropWhile isBlank) hne)

/-- A text is what is left of it between blanks. -/
theorem exists_trim (s : List Char) :
    ∃ u, s = s.takeWhile isBlank ++ trim s ++ u ∧ ∀ c ∈ u, isBlank c = true := by
  refine ⟨(s.dropWhile isBlank).rtakeWhile isBlank, ?_, fun c hc => List.mem_rtakeWhile_imp hc⟩
  rw [trim_eq, List.append_assoc, List.rdropWhile_append_rtakeWhile,
    List.takeWhile_append_dropWhile]

/-! ## Lines -/

/-- The lines of a text, trimmed. -/
def rows (s : List Char) : List (List Char) := (s.splitOn '\n').map trim

/-- A blank before a text is a blank line or stands at the start of one. -/
theorem rows_blank_cons {b : Char} (hb : isBlank b = true) (s : List Char) :
    rows (b :: s) = List.replicate ([b].count '\n') [] ++ rows s := by
  unfold rows
  rw [List.splitOn_cons_eq_if_modifyHead]
  by_cases hn : b = '\n'
  · subst hn
    rfl
  · obtain ⟨first, rest, hs⟩ := List.exists_cons_of_ne_nil (List.splitOn_ne_nil '\n' s)
    have htrim : trim (b :: first) = trim first :=
      trim_blank_append (t := [b]) (by simpa using hb) first
    rw [if_neg (by simpa using hn), hs, List.modifyHead_cons, List.map_cons, htrim,
      List.count_singleton, if_neg (by simpa using hn)]
    rfl

/-- A blank after a text is a blank line or stands at the end of one. -/
theorem rows_concat_blank {b : Char} (hb : isBlank b = true) (s : List Char) :
    rows (s ++ [b]) = rows s ++ List.replicate ([b].count '\n') [] := by
  unfold rows
  by_cases hn : b = '\n'
  · subst hn
    rw [List.splitOn_eq_splitOnP, List.splitOn_eq_splitOnP,
      List.splitOnP_append_cons s [] (by decide), List.splitOnP_nil, List.map_append]
    rfl
  · obtain ⟨front, last, hs, hsb⟩ := splitOnP_append (· == '\n') s
    rw [List.splitOn_eq_splitOnP, List.splitOn_eq_splitOnP, hs, hsb [b] (by simpa using hn),
      List.map_append, List.map_append, List.map_singleton, List.map_singleton,
      trim_append last (by simpa using hb), List.count_singleton,
      if_neg (by simpa using hn)]
    exact (List.append_nil _).symm

/-- Blanks before a text are as many blank lines as they hold line breaks. -/
theorem rows_blank_append (ht : ∀ c ∈ t, isBlank c = true) (s : List Char) :
    rows (t ++ s) = List.replicate (t.count '\n') [] ++ rows s := by
  induction t with
  | nil => rfl
  | cons b t ih =>
    rw [List.cons_append, rows_blank_cons (ht b List.mem_cons_self),
      ih fun c hc => ht c (List.mem_cons_of_mem b hc), ← List.append_assoc,
      List.replicate_append_replicate, ← List.count_append, List.singleton_append]

/-- Blanks after a text are as many blank lines as they hold line breaks. -/
theorem rows_append_blank (ht : ∀ c ∈ t, isBlank c = true) (s : List Char) :
    rows (s ++ t) = rows s ++ List.replicate (t.count '\n') [] := by
  induction t generalizing s with
  | nil => rw [List.append_nil, List.count_nil, List.replicate_zero, List.append_nil]
  | cons b t ih =>
    rw [List.append_cons, ih fun c hc => ht c (List.mem_cons_of_mem b hc),
      rows_concat_blank (ht b List.mem_cons_self), List.append_assoc,
      List.replicate_append_replicate, ← List.count_append, List.singleton_append]

/-- The lines of a text are those of what is left of it between blanks, and blank ones around
    them. -/
theorem rows_trim (s : List Char) : ∃ k,
    rows s = List.replicate ((s.takeWhile isBlank).count '\n') [] ++ rows (trim s) ++
      List.replicate k [] := by
  obtain ⟨u, hs, hu⟩ := exists_trim s
  refine ⟨u.count '\n', ?_⟩
  conv_lhs => rw [hs]
  rw [rows_append_blank hu, rows_blank_append fun c hc => List.mem_takeWhile_imp hc]

end Text

end FlipSat
