import FlipSat.Proofs.DimacsOutline
import FlipSat.Proofs.LineFormat

/-
  FlipSat: writing a formula down and reading it again.
  Just the writable formulas survive it. Whatever one of the two formats lets in is writable: for
  the line format this is `Formula.Written.writable`, for DIMACS `Dimacs.writable_of_outline`, since
  the names made up for variables are proper (`Dimacs.isName_variable`). So once a text has been
  accepted, its formula can be written and read as often as one likes (`reads_back`).
-/
namespace FlipSat

/-! ## Names of variables -/

theorem Text.isBlank_of_isDigit {c : Char} (h : c.isDigit = true) : isBlank c = false := by
  have hdigit : 48 ≤ c.toNat ∧ c.toNat ≤ 57 := by
    simpa [Char.isDigit, UInt32.le_iff_toNat_le] using h
  have houtside : ∀ r ∈ blankRanges, r.2 < 48 ∨ 57 < r.1 := by decide
  rw [isBlank, inRanges, List.any_eq_false]
  intro r hr
  have := houtside r hr
  simp only [Bool.and_eq_true, decide_eq_true_eq]
  omega

namespace Dimacs

theorem eq_or_isDigit_of_mem {v : Int} {c : Char} (h : c ∈ ("x" ++ toString v.natAbs).toList) :
    c = 'x' ∨ c.isDigit = true := by
  rw [String.toList_append, List.mem_append] at h
  rcases h with h | h
  · exact .inl (by simpa using h)
  · have hdigits : (toString v.natAbs).toList = Nat.toDigits 10 v.natAbs := by
      rw [Nat.toString_eq_repr, Nat.repr_eq_ofList_toDigits, String.toList_ofList]
    rw [hdigits] at h
    exact .inr (Nat.isDigit_of_mem_toDigits (by decide) (by decide) h)

/-- What is written for a variable holds neither blanks nor signs. -/
theorem plain_of_mem {v : Int} {c : Char} (h : c ∈ ("x" ++ toString v.natAbs).toList) :
    Text.isBlank c = false ∧ c ≠ '|' ∧ c ≠ '!' := by
  rcases eq_or_isDigit_of_mem h with rfl | hd
  · decide
  · refine ⟨Text.isBlank_of_isDigit hd, ?_, ?_⟩
    · rintro rfl
      exact absurd hd (by decide)
    · rintro rfl
      exact absurd hd (by decide)

/-- What is written for a variable can stand in a line. -/
theorem isName_variable (v : Int) : IsName ("x" ++ toString v.natAbs) := by
  refine ⟨?_, ?_, fun h => (plain_of_mem h).2.1 rfl, fun h => (plain_of_mem h).2.2 rfl⟩
  · intro h
    have := congrArg String.toList h
    simp at this
  · rw [Text.trimmed_eq_self_iff, Text.trim_eq_self_iff]
    exact ⟨fun c hc => (plain_of_mem (List.mem_of_mem_head? hc)).1,
      fun c hc => (plain_of_mem (List.mem_of_getLast? hc)).1⟩

/-- The clauses of a formula in DIMACS are not empty, and its names are those of variables. -/
theorem Outline.Says.clause_spec {o : Outline} {d : Dimacs} (h : o.Says d) :
    ∀ c ∈ d.formula, c ≠ [] ∧ ∀ l ∈ c, ∃ v : Int, l.name = "x" ++ toString v.natAbs := by
  obtain ⟨stream, -, hf⟩ := h.formula
  intro c hc
  rw [hf] at hc
  obtain ⟨group, hgroup, rfl⟩ := List.mem_map.mp hc
  have hne : group ≠ [] := by simpa using (List.mem_filter.mp hgroup).2
  refine ⟨by simpa using hne, fun l hl => ?_⟩
  obtain ⟨v, -, rfl⟩ := List.mem_map.mp hl
  exact ⟨v, rfl⟩

/-- Formulas in DIMACS are writable. -/
theorem writable_of_outline {o : Outline} {d : Dimacs} (h : o.Says d) : d.formula.Writable := by
  intro c hc
  obtain ⟨hne, hnames⟩ := h.clause_spec c hc
  refine ⟨hne, fun l hl => ?_⟩
  obtain ⟨v, hv⟩ := hnames l hl
  rw [hv]
  exact isName_variable v

end Dimacs

/-! ## Round trips -/

namespace Formula

variable {f : Formula}

/-- The writable formulas are those that are read back from their lines. -/
theorem parseLines_lines_iff : parseLines f.lines = .ok f ↔ f.Writable := by
  rw [parseLines_eq_ok_iff]
  exact ⟨Written.writable, written_lines⟩

/-- The formula is read back from its lines, and they are what is written for what was read. -/
def ReadsBack (f : Formula) : Prop :=
  parseLines f.lines = .ok f ∧ (parseLines f.lines).map lines = .ok f.lines

theorem readsBack_iff : f.ReadsBack ↔ f.Writable := by
  constructor
  · exact fun h => parseLines_lines_iff.mp h.1
  · intro h
    have hread := parseLines_lines_iff.mpr h
    exact ⟨hread, by rw [hread]; rfl⟩

/-- A formula is read back from its lines if and only if it is writable, and every formula that is
    read, in either format, is. -/
theorem reads_back :
    (∀ f : Formula, parseLines f.lines = .ok f ↔ f.Writable) ∧
    (∀ (texts : List String) f, parseLines texts = .ok f → f.Writable ∧ f.ReadsBack) ∧
    (∀ text d, Dimacs.parse text = .ok d → d.formula.Writable ∧ d.formula.ReadsBack) ∧
    ∀ text d, Dimacs.parseStream text = .ok d → d.formula.Writable ∧ d.formula.ReadsBack := by
  have hboth : ∀ f : Formula, f.Writable → f.Writable ∧ f.ReadsBack :=
    fun f h => ⟨h, readsBack_iff.mpr h⟩
  refine ⟨fun f => parseLines_lines_iff, ?_, ?_, ?_⟩
  · intro texts f h
    exact hboth f (parseLines_eq_ok_iff.mp h).writable
  · intro text d h
    exact hboth _ (Dimacs.writable_of_outline (Dimacs.parse_eq_ok_iff.mp h))
  · intro text d h
    exact hboth _ (Dimacs.writable_of_outline (Dimacs.parseStream_eq_ok_iff.mp h))

/-- Names may hold blanks inside, and a DIMACS text may leave its last clause open. -/
theorem reads_back_accepted :
    parseLines [" ! to be|be ", "a", " "] = .ok [[⟨"to be", true⟩, ⟨"be", false⟩], [⟨"a", false⟩]] ∧
    ReadsBack [[⟨"to be", true⟩, ⟨"be", false⟩], [⟨"a", false⟩]] ∧
    Dimacs.parse "p cnf 1 1\n-1" = .ok ⟨[[⟨"x1", true⟩]], [], 1, 1⟩ ∧
    ReadsBack [[⟨"x1", true⟩]] := by
  have hlines : parseLines [" ! to be|be ", "a", " "] =
      .ok [[⟨"to be", true⟩, ⟨"be", false⟩], [⟨"a", false⟩]] := by decide
  have hdimacs : Dimacs.parse "p cnf 1 1\n-1" = .ok ⟨[[⟨"x1", true⟩]], [], 1, 1⟩ := by decide
  exact ⟨hlines, (reads_back.2.1 _ _ hlines).2, hdimacs, (reads_back.2.2.1 _ _ hdimacs).2⟩

end Formula

end FlipSat
