import FlipSat.Proofs.DimacsOutline

/-
  FlipSat: reading DIMACS from a text and from a stream of its lines.
  A text is trimmed before it is cut into lines, a stream is not. Reading looks at trimmed lines only
  (`gather_map_trim`), so blanks after the text make no difference (`gather_append_blank`), and
  blanks before it move the numbers of the lines by as many as they break (`gather_blank_append`,
  `gather_add`). `parseStream_exact`: the two ways read the same, and find the same fault in lines
  whose numbers differ by this much.
-/
namespace FlipSat

/-- The fault with its line so many lines further down. -/
def ParseFault.below (k : Nat) (e : ParseFault) : ParseFault :=
  { e with line := e.line.map (· + (k : Int)) }

theorem mapError_below_zero {α : Type} (x : Except ParseFault α) : x.mapError (.below 0) = x := by
  have hbelow : ∀ e, ParseFault.below 0 e = e := by
    intro e
    obtain ⟨cause, line, near⟩ := e
    cases line <;> simp [ParseFault.below]
  cases x with
  | error e => exact congrArg Except.error (hbelow e)
  | ok a => rfl

namespace Dimacs

/-- The lines of a text as a stream yields them: each with its `\n`, and what comes after the last
    `\n` if there is anything. -/
def streamed (s : List Char) : List (List Char) :=
  (s.splitOn '\n').dropLast.map (· ++ ['\n']) ++
    (s.splitOn '\n').getLast?.toList.filter fun line => !line.isEmpty

/-! ## Numbers of lines -/

theorem parseHeader_add (n k : Nat) (line : List Char) :
    parseHeader (n + k) line = (parseHeader n line).mapError (.below k) := by
  unfold parseHeader
  dsimp only
  split
  · split
    · split <;> rfl
    · rfl
  · rfl

theorem parseTokens_add (n k : Nat) (tokens : List (List Char)) (stream : List Int) :
    parseTokens (n + k) tokens stream = (parseTokens n tokens stream).mapError (.below k) := by
  induction tokens generalizing stream with
  | nil => rfl
  | cons token tokens ih =>
    unfold parseTokens
    split
    · exact ih _
    · rfl

/-- Lines further down are read alike. -/
theorem gather_add (n k : Nat) (g : Gathered) (lines : List (List Char)) :
    gather (n + k) g lines = (gather n g lines).mapError (.below k) := by
  induction lines generalizing n g with
  | nil => rfl
  | cons raw lines ih =>
    have hnext : ∀ g, gather (n + k + 1) g lines = (gather (n + 1) g lines).mapError (.below k) := by
      intro g
      rw [show n + k + 1 = n + 1 + k by omega]
      exact ih (n + 1) g
    unfold gather
    dsimp only
    split
    · exact hnext g
    · exact hnext _
    · rfl
    · split
      · rfl
      · rw [mapError_bind, parseHeader_add]
        simp only [hnext]
    · rw [mapError_bind, parseTokens_add]
      simp only [hnext]

/-! ## Blanks -/

/-- Reading looks at trimmed lines. -/
theorem gather_map_trim (n : Nat) (g : Gathered) (lines : List (List Char)) :
    gather n g (lines.map Text.trim) = gather n g lines := by
  induction lines generalizing n g with
  | nil => rfl
  | cons raw lines ih =>
    rw [List.map_cons, gather, gather, Text.trim_trim]
    simp only [ih]

theorem gather_blank_append (n k : Nat) (g : Gathered) (lines : List (List Char)) :
    gather n g (List.replicate k [] ++ lines) = gather (n + k) g lines := by
  induction k generalizing n with
  | zero => rfl
  | succ k ih =>
    rw [List.replicate_succ, List.cons_append, show n + (k + 1) = n + 1 + k by omega, ← ih (n + 1)]
    rfl

theorem gather_append_blank (n k : Nat) (g : Gathered) (lines : List (List Char)) :
    gather n g (lines ++ List.replicate k []) = gather n g lines := by
  induction lines generalizing n g with
  | nil =>
    have h := gather_blank_append n k g []
    rw [List.append_nil] at h
    exact h
  | cons raw lines ih =>
    rw [List.cons_append, gather, gather]
    simp only [ih]

/-! ## Texts and streams -/

theorem parseLines_map_trim (lines : List (List Char)) :
    parseLines (lines.map Text.trim) = parseLines lines := by
  unfold parseLines
  rw [gather_map_trim]

/-- A fault in what was gathered has no line. -/
theorem ofGathered_below (k : Nat) (g : Gathered) :
    (ofGathered g).mapError (.below k) = ofGathered g := by
  unfold ofGathered
  split
  · rfl
  · dsimp only
    split <;> rfl

/-- Blank lines around others move their numbers, and nothing else. -/
theorem parseLines_blank (k j : Nat) (lines : List (List Char)) :
    parseLines (List.replicate k [] ++ lines ++ List.replicate j []) =
      (parseLines lines).mapError (.below k) := by
  unfold parseLines
  rw [gather_append_blank, gather_blank_append, gather_add, mapError_bind]
  simp only [ofGathered_below]

theorem intercalate_concat {α : Type} (sep : List α) (front : List (List α)) (last : List α) :
    sep.intercalate (front ++ [last]) = (front.map (· ++ sep)).flatten ++ last := by
  induction front with
  | nil => exact List.intercalate_singleton
  | cons first front ih =>
    rw [List.cons_append, List.intercalate_cons_of_ne_nil (by simp), ih, List.map_cons,
      List.flatten_cons, List.append_assoc, List.append_assoc, List.append_assoc]

/-- The lines of a stream are those of its text with `\n` after all but the last, which is there
    unless it is empty. -/
theorem streamed_inv (s : List Char) : ∃ front last,
    s.splitOn '\n' = front ++ [last] ∧
      streamed s = front.map (· ++ ['\n']) ++ [last].filter fun line => !line.isEmpty := by
  have hne := List.splitOn_ne_nil '\n' s
  refine ⟨_, _, (List.dropLast_concat_getLast hne).symm, ?_⟩
  unfold streamed
  rw [List.getLast?_eq_some_getLast hne]
  rfl

theorem flatten_streamed (s : List Char) : (streamed s).flatten = s := by
  obtain ⟨front, last, hs, hstream⟩ := streamed_inv s
  have hlast : ([last].filter fun line => !line.isEmpty).flatten = last := by
    cases last <;> simp
  calc (streamed s).flatten
      = (front.map (· ++ ['\n'])).flatten ++ last := by rw [hstream, List.flatten_append, hlast]
    _ = ['\n'].intercalate (s.splitOn '\n') := by rw [hs, intercalate_concat]
    _ = s := List.intercalate_splitOn '\n'

/-- Trimming takes the line breaks away, and an empty line after the last of them is a blank one. -/
theorem rows_eq_streamed (s : List Char) : ∃ k,
    Text.rows s = (streamed s).map Text.trim ++ List.replicate k [] := by
  obtain ⟨front, last, hs, hstream⟩ := streamed_inv s
  have htrim : (front.map (· ++ ['\n'])).map Text.trim = front.map Text.trim := by
    rw [List.map_map]
    refine List.map_congr_left fun line _ => ?_
    exact Text.trim_append line (List.forall_mem_singleton.mpr (by decide))
  rw [Text.rows, hs, hstream, List.map_append, List.map_append, htrim]
  cases last with
  | nil => exact ⟨1, by simp [Text.trim_eq_nil_iff]⟩
  | cons c rest => exact ⟨0, by simp⟩

/-- A stream yields the lines of its text with their `\n`. It is read as the text is, with the same
    result; a fault in it has the same cause and shows the same piece, and if it is in a line, then
    in one that is further down by the line breaks among the blanks before the text. -/
theorem parseStream_exact (text : String) :
    (streamed text.toList).flatten = text.toList ∧
    parseLines (streamed text.toList) = parseStream text ∧
    parseStream text = (parse text).mapError
      (.below ((text.toList.takeWhile Text.isBlank).count '\n')) := by
  have hrows : ∀ s : List Char, parseLines (Text.splitOn '\n' s) = parseLines (Text.rows s) := by
    intro s
    rw [Text.splitOn_eq, Text.rows, parseLines_map_trim]
  refine ⟨flatten_streamed _, ?_, ?_⟩
  · obtain ⟨k, hk⟩ := rows_eq_streamed text.toList
    have hblank := parseLines_blank 0 k ((streamed text.toList).map Text.trim)
    rw [List.replicate_zero, List.nil_append, parseLines_map_trim] at hblank
    rw [parseStream, hrows, hk, hblank, mapError_below_zero]
  · obtain ⟨k, hk⟩ := Text.rows_trim text.toList
    rw [parseStream, parse, hrows, hrows, hk, parseLines_blank]

/-- Of the three line breaks two stand before the text. -/
example : parse " \n\np cnf 1 1\n1 -" = .error ⟨.badLiteral, some 2, some "-"⟩ ∧
    parseStream " \n\np cnf 1 1\n1 -" = .error ⟨.badLiteral, some 4, some "-"⟩ := by decide

end Dimacs

end FlipSat
