import FlipSat.CommandLine.Arguments
import FlipSat.Formula.File
import FlipSat.Proofs.RoundTrip

/-
  FlipSat: line breaks in texts, names and files.
  A text without line breaks stays whole when the lines that hold it are cut (`splitLines_append`),
  so lines that are written to a file one after the other are read back (`readText_unlines`,
  `linesOf_unlines`). The lines of a file hold no line breaks, hence neither do the names read from
  it, in either format (`Formula.load_spec`, `Dimacs.load_spec`), nor the lines that are written for
  them (`Formula.Unbroken.isLine_of_mem_lines`).
-/
namespace FlipSat

namespace Text

/-- Does the text hold no line break? -/
def IsLine (s : List Char) : Prop := ∀ c ∈ s, isLineBreak c = false

instance : DecidablePred IsLine :=
  fun s => List.decidableBAll (fun c => isLineBreak c = false) s

variable {s line : List Char}

theorem isLine_of_subset {t : List Char} (ht : IsLine t) (h : s ⊆ t) : IsLine s :=
  fun c hc => ht c (h hc)

theorem isLine_append_iff {t : List Char} : IsLine (s ++ t) ↔ IsLine s ∧ IsLine t := by
  unfold IsLine
  simp [or_imp, forall_and]

/-- Every line break is a blank. -/
theorem isLineBreak_of_not_blank {c : Char} (h : isBlank c = false) : isLineBreak c = false := by
  cases hc : isLineBreak c with
  | false => rfl
  | true =>
    simp only [isLineBreak, Bool.or_eq_true, beq_iff_eq, or_assoc] at hc
    rcases hc with rfl | rfl | rfl | rfl | rfl | rfl | rfl | rfl | rfl | rfl
    all_goals exact absurd h (by decide)

/-! ## Cutting into lines -/

theorem isLine_of_mem_splitLines (h : line ∈ splitLines s) : IsLine line := by
  fun_induction splitLines s generalizing line with
  | case1 => simp at h
  | case2 s ih =>
    rcases List.mem_cons.mp h with rfl | h
    · simp [IsLine]
    · exact ih h
  | case3 c s _ hc ih =>
    rcases List.mem_cons.mp h with rfl | h
    · simp [IsLine]
    · exact ih h
  | case4 c s _ hc hs ih =>
    rw [List.mem_singleton] at h
    subst h
    simpa [IsLine] using hc
  | case5 c s _ hc first rest hs ih =>
    rw [hs] at ih
    rcases List.mem_cons.mp h with rfl | h
    · intro d hd
      rcases List.mem_cons.mp hd with rfl | hd
      · simpa using hc
      · exact ih List.mem_cons_self d hd
    · exact ih (List.mem_cons_of_mem _ h)

/-- What is no line break is the first of its line. -/
theorem splitLines_cons {c : Char} (hc : isLineBreak c = false) (s : List Char) :
    splitLines (c :: s) = match splitLines s with
      | [] => [[c]]
      | line :: rest => (c :: line) :: rest := by
  rw [splitLines.eq_def]
  split
  · next h => cases h
  · next h =>
    cases h
    exact absurd hc (by decide)
  · next h =>
    cases h
    exact if_neg (by simp [hc])

/-- A line ends where its break stands, and not before. -/
theorem splitLines_append (h : IsLine line) (s : List Char) :
    splitLines (line ++ '\n' :: s) = line :: splitLines s := by
  induction line with
  | nil => rfl
  | cons c line ih =>
    have hline := ih fun d hd => h d (List.mem_cons_of_mem _ hd)
    rw [List.cons_append, splitLines_cons (h c List.mem_cons_self), hline]

theorem foldNewlines_eq_self (h : '\r' ∉ s) : foldNewlines s = s := by
  fun_induction foldNewlines s with
  | case1 => rfl
  | case2 s ih => exact absurd List.mem_cons_self h
  | case3 c s _ ih =>
    rw [List.mem_cons, not_or] at h
    rw [if_neg (by simpa using Ne.symm h.1), ih h.2]

end Text

/-! ## Lines in a file -/

open CommandLine (unlines)

variable {ls : List String} {tree : FileTree} {path : String}

theorem toList_unlines (ls : List String) :
    (unlines ls).toList = ls.flatMap fun l => l.toList ++ ['\n'] := by
  simp [unlines, String.toList_join, List.flatMap_map]

/-- What is written as lines is cut into the same lines. -/
theorem linesOf_unlines (h : ∀ l ∈ ls, Text.IsLine l.toList) : linesOf (unlines ls) = ls := by
  unfold linesOf
  rw [toList_unlines]
  induction ls with
  | nil => rfl
  | cons l ls ih =>
    rw [List.flatMap_cons, List.append_assoc, List.singleton_append,
      Text.splitLines_append (h l List.mem_cons_self), List.map_cons, String.ofList_toList,
      ih fun k hk => h k (List.mem_cons_of_mem _ hk)]

theorem Text.ofUtf8_toUTF8 (s : String) : Text.ofUtf8 s.toUTF8 = .ok s := by
  unfold Text.ofUtf8 String.fromUTF8?
  rw [String.toUTF8_eq_toByteArray, dif_pos s.isValidUTF8]
  rfl

theorem readText_eq_ok_iff {text : String} :
    readText tree path = .ok text ↔ ∃ bytes s, tree.read path = .ok bytes ∧
      Text.ofUtf8 bytes = .ok s ∧ String.ofList (Text.foldNewlines s.toList) = text := by
  unfold readText
  cases hread : tree.read path with
  | error e => simp
  | ok bytes =>
    dsimp only
    cases hutf : Text.ofUtf8 bytes with
    | error e => simp [hutf]
    | ok s => simp [hutf]

/-- A file with a text in UTF-8 is read as this text, but for its line breaks. -/
theorem readText_of_read_toUTF8 {s : String} (hread : tree.read path = .ok s.toUTF8) :
    readText tree path = .ok (String.ofList (Text.foldNewlines s.toList)) :=
  readText_eq_ok_iff.mpr ⟨_, s, hread, Text.ofUtf8_toUTF8 s, rfl⟩

/-- A file with lines in it is read as these lines. -/
theorem readText_unlines (h : ∀ l ∈ ls, Text.IsLine l.toList)
    (hread : tree.read path = .ok (unlines ls).toUTF8) : readText tree path = .ok (unlines ls) := by
  have hfold : '\r' ∉ (unlines ls).toList := by
    rw [toList_unlines, List.mem_flatMap]
    rintro ⟨l, hl, hc⟩
    rcases List.mem_append.mp hc with hc | hc
    · exact absurd (h l hl _ hc) (by decide)
    · exact absurd hc (by decide)
  rw [readText_of_read_toUTF8 hread, Text.foldNewlines_eq_self hfold, String.ofList_toList]

theorem mem_of_mem_intercalate {α : Type} {sep : List α} {pieces : List (List α)} {a : α}
    (h : a ∈ sep.intercalate pieces) : a ∈ sep ∨ ∃ piece ∈ pieces, a ∈ piece := by
  induction pieces with
  | nil => simp at h
  | cons piece pieces ih =>
    cases pieces with
    | nil => exact .inr ⟨piece, List.mem_cons_self, by simpa using h⟩
    | cons next pieces =>
      rw [List.intercalate_cons_cons, List.append_assoc, List.mem_append, List.mem_append] at h
      rcases h with h | h | h
      · exact .inr ⟨piece, List.mem_cons_self, h⟩
      · exact .inl h
      · exact (ih h).imp_right fun ⟨p, hp, ha⟩ => ⟨p, List.mem_cons_of_mem _ hp, ha⟩

/-! ## Names without line breaks -/

theorem LiteralSpec.Written.subset {s : List Char} {l : LiteralSpec} (h : Written s l) :
    l.name.toList ⊆ s := by
  intro c hc
  have hbody := h.body
  split at hbody
  · obtain ⟨r, hr, hname⟩ := hbody
    rw [← hname] at hc
    apply Text.mem_of_mem_trim
    rw [hr]
    exact List.mem_cons_of_mem _ (Text.mem_of_mem_trim hc)
  · rw [← hbody] at hc
    exact Text.mem_of_mem_trim hc

theorem ClauseSpec.Written.subset {s : List Char} {c : ClauseSpec} (h : Written s c) :
    ∀ l ∈ c, l.name.toList ⊆ s := by
  intro l hl
  obtain ⟨piece, hpiece, hw⟩ := exists_of_forall₂ h hl
  rw [List.splitOn_eq_splitOnP] at hpiece
  exact fun a ha => (mem_of_mem_splitOnP hpiece a (hw.subset ha)).1

theorem ClauseSpec.isLine_text {c : ClauseSpec} (h : ∀ l ∈ c, Text.IsLine l.name.toList) :
    Text.IsLine c.text.toList := by
  have hliteral : ∀ l ∈ c, Text.IsLine l.text.toList := by
    intro l hl
    unfold LiteralSpec.text
    split
    · rw [String.toList_append, Text.isLine_append_iff]
      exact ⟨by decide, h l hl⟩
    · exact h l hl
  unfold ClauseSpec.text
  rw [String.toList_intercalate]
  intro a ha
  rcases mem_of_mem_intercalate ha with ha | ⟨piece, hpiece, ha⟩
  · have hsep : Text.IsLine " | ".toList := by decide
    exact hsep a ha
  · obtain ⟨text, htext, rfl⟩ := List.mem_map.mp hpiece
    obtain ⟨l, hl, rfl⟩ := List.mem_map.mp htext
    exact hliteral l hl a ha

namespace Formula

/-- Does no name of the formula hold a line break? -/
def Unbroken (f : Formula) : Prop := ∀ c ∈ f, ∀ l ∈ c, Text.IsLine l.name.toList

theorem Unbroken.isLine_of_mem_lines {f : Formula} (h : f.Unbroken) :
    ∀ line ∈ f.lines, Text.IsLine line.toList := by
  intro line hline
  obtain ⟨c, hc, rfl⟩ := List.mem_map.mp hline
  exact ClauseSpec.isLine_text (h c hc)

theorem unbroken_of_parseLines {lines : List String} {f : Formula}
    (h : ∀ line ∈ lines, Text.IsLine line.toList) (hf : parseLines lines = .ok f) : f.Unbroken := by
  intro c hc l hl
  obtain ⟨line, hline, hw⟩ := exists_of_forall₂ (parseLines_eq_ok_iff.mp hf) hc
  have hmem : line ∈ lines.map String.toList := by
    rw [dropBlankEnd, List.mem_reverse] at hline
    simpa using (List.dropWhile_suffix Text.allBlank).subset hline
  obtain ⟨text, htext, rfl⟩ := List.mem_map.mp hmem
  exact Text.isLine_of_subset (h text htext) (hw.subset l hl)

end Formula

/-! ## Loading -/

theorem FileTree.exists?_of_read {bytes : ByteArray} (h : tree.read path = .ok bytes) :
    tree.exists? path = true := by
  unfold FileTree.read at h
  obtain ⟨⟨way, closed⟩, hresolve, hread⟩ := bind_eq_ok_iff.mp h
  unfold FileTree.exists?
  rw [hresolve]
  dsimp only at hread ⊢
  split at hread
  · cases hread
  · cases hread
  · next hnode =>
    rw [hnode]
    cases closed with
    | false => rfl
    | true => cases hread

/-- A file that can be read is there. -/
theorem exists?_of_readText {text : String} (h : readText tree path = .ok text) :
    tree.exists? path = true := by
  obtain ⟨bytes, s, hread, -, -⟩ := readText_eq_ok_iff.mp h
  exact FileTree.exists?_of_read hread

/-- Loading a text reads it and does something with it; that the file is there need not be asked. -/
theorem loading_eq_ok_iff {α : Type} {e : Fault} {use : String → Except Fault α} {a : α} :
    (do if !tree.exists? path then throw e
        let text ← readText tree path
        use text) = .ok a ↔ ∃ text, readText tree path = .ok text ∧ use text = .ok a := by
  cases hexists : tree.exists? path with
  | false =>
    constructor
    · intro h
      cases h
    · rintro ⟨text, htext, -⟩
      exact absurd (exists?_of_readText htext) (by simp [hexists])
  | true => exact bind_eq_ok_iff

theorem Formula.load_eq_ok_iff {f : Formula} : load tree path = .ok f ↔
    ∃ text, readText tree path = .ok text ∧ parseLines (linesOf text) = .ok f := by
  unfold load
  rw [loading_eq_ok_iff]
  simp only [mapError_eq_ok_iff]

theorem Dimacs.load_eq_ok_iff {d : Dimacs} : load tree path = .ok d ↔
    ∃ text, readText tree path = .ok text ∧ parse text = .ok d := by
  unfold load
  rw [loading_eq_ok_iff]
  simp only [mapError_eq_ok_iff]

/-- What is loaded from a file of lines can be written, and no name of it holds a line break. -/
theorem Formula.load_spec {f : Formula} (h : load tree path = .ok f) :
    f.Writable ∧ f.Unbroken := by
  obtain ⟨text, -, hf⟩ := load_eq_ok_iff.mp h
  refine ⟨(parseLines_eq_ok_iff.mp hf).writable, unbroken_of_parseLines ?_ hf⟩
  intro line hline
  obtain ⟨s, hs, rfl⟩ := List.mem_map.mp hline
  rw [String.toList_ofList]
  exact Text.isLine_of_mem_splitLines hs

/-- The same holds of what is loaded from a file in DIMACS. -/
theorem Dimacs.load_spec {d : Dimacs} (h : load tree path = .ok d) :
    d.formula.Writable ∧ d.formula.Unbroken := by
  obtain ⟨text, -, hd⟩ := load_eq_ok_iff.mp h
  have houtline := parse_eq_ok_iff.mp hd
  refine ⟨writable_of_outline houtline, fun c hc l hl => ?_⟩
  obtain ⟨v, hv⟩ := (houtline.clause_spec c hc).2 l hl
  rw [hv]
  exact fun a ha => Text.isLineBreak_of_not_blank (plain_of_mem ha).1

end FlipSat
