import FlipSat.Proofs.FileTree
import FlipSat.Proofs.LineBreaks

/-
  FlipSat: formulas written to files and loaded again.
  Lines can end in a file in three ways (`Newline`). Reading a file makes them all one
  (`foldNewlines_newline`), so the lines of a file are cut as they were put together, whatever ends
  them (`splitLines_foldNewlines`). That takes lines without line breaks, and the last one must not
  be empty: the lines of a formula that can be written are such. Hence the formulas that are loaded
  from some file are those that each of their files gives back (`loads_back`).
-/
namespace FlipSat

/-- How lines end in a file. -/
inductive Newline where
  | lf
  | crlf
  | cr
deriving DecidableEq, Repr

namespace Newline

def text : Newline → String
  | .lf => "\n"
  | .crlf => "\r\n"
  | .cr => "\r"

/-- What stands after the last line: a line end if the text is `closed`, and otherwise nothing. -/
def ending (newline : Newline) (closed : Bool) : String := if closed then newline.text else ""

end Newline

namespace Text

variable {s line : List Char} {lines : List (List Char)}

/-! ## Line ends that are folded -/

theorem foldNewlines_cons {c : Char} (hc : c ≠ '\r') (s : List Char) :
    foldNewlines (c :: s) = c :: foldNewlines s := by
  rw [foldNewlines.eq_def]
  split
  · next h => cases h
  · next h =>
    cases h
    exact absurd rfl hc
  · next h =>
    cases h
    rw [if_neg (by simpa using hc)]

theorem foldNewlines_append (h : IsLine line) (s : List Char) :
    foldNewlines (line ++ s) = line ++ foldNewlines s := by
  induction line with
  | nil => rfl
  | cons c line ih =>
    have hc : c ≠ '\r' := by
      rintro rfl
      exact absurd (h '\r' List.mem_cons_self) (by decide)
    rw [List.cons_append, foldNewlines_cons hc, ih fun d hd => h d (List.mem_cons_of_mem _ hd),
      List.cons_append]

/-- Each line end becomes one `\n`; a `\r` would take a `\n` after it along. -/
theorem foldNewlines_newline (newline : Newline) (hs : s.head? ≠ some '\n') :
    foldNewlines (newline.text.toList ++ s) = '\n' :: foldNewlines s := by
  cases newline with
  | lf => exact foldNewlines_cons (by decide) s
  | crlf => rfl
  | cr =>
    show foldNewlines ('\r' :: s) = '\n' :: foldNewlines s
    rw [foldNewlines.eq_def]
    split
    · next h => cases h
    · next h =>
      cases h
      exact absurd rfl hs
    · next h =>
      cases h
      rfl

/-! ## Lines that are put together -/

/-- A last line is cut off whether or not something ends it. -/
theorem splitLines_last (h : IsLine line) (hne : line ≠ []) : splitLines line = [line] := by
  induction line with
  | nil => exact absurd rfl hne
  | cons c line ih =>
    rw [splitLines_cons (h c List.mem_cons_self)]
    by_cases hline : line = []
    · subst hline
      rfl
    · rw [ih (fun d hd => h d (List.mem_cons_of_mem _ hd)) hline]

theorem splitLines_foldNewlines_last (newline : Newline) (closed : Bool) (h : IsLine line)
    (hne : line ≠ []) :
    splitLines (foldNewlines (line ++ (newline.ending closed).toList)) = [line] := by
  rw [foldNewlines_append h]
  cases closed with
  | false =>
    show splitLines (line ++ []) = [line]
    rw [List.append_nil, splitLines_last h hne]
  | true =>
    have hend : foldNewlines (newline.ending true).toList = ['\n'] := by
      cases newline <;> rfl
    rw [hend, splitLines_append h]
    rfl

/-- Lines that are put together are cut apart again. -/
theorem splitLines_foldNewlines (newline : Newline) (closed : Bool)
    (h : ∀ line ∈ lines, IsLine line ∧ line ≠ []) (hlines : lines ≠ []) :
    splitLines (foldNewlines
      (newline.text.toList.intercalate lines ++ (newline.ending closed).toList)) = lines := by
  induction lines with
  | nil => exact absurd rfl hlines
  | cons line rest ih =>
    obtain ⟨hline, hne⟩ := h line List.mem_cons_self
    cases rest with
    | nil =>
      rw [List.intercalate_singleton]
      exact splitLines_foldNewlines_last newline closed hline hne
    | cons next rest =>
      have hrest := ih (fun l hl => h l (List.mem_cons_of_mem _ hl)) (List.cons_ne_nil _ _)
      -- The next line starts with a character of its own, not with a line break.
      have hhead : (newline.text.toList.intercalate (next :: rest) ++
          (newline.ending closed).toList).head? ≠ some '\n' := by
        obtain ⟨hnext, hnextne⟩ := h next (List.mem_cons_of_mem _ List.mem_cons_self)
        obtain ⟨c, cs, rfl⟩ := List.exists_cons_of_ne_nil hnextne
        have hc : c ≠ '\n' := by
          rintro rfl
          exact absurd (hnext '\n' List.mem_cons_self) (by decide)
        cases rest with
        | nil => simpa using hc
        | cons third rest =>
          rw [List.intercalate_cons_cons]
          simpa using hc
      rw [List.intercalate_cons_cons, List.append_assoc, List.append_assoc,
        foldNewlines_append hline, foldNewlines_newline newline hhead, splitLines_append hline,
        hrest]

end Text

namespace Formula

variable {f : Formula}

/-- The text of a file with the lines of a formula: `newline` stands between them, and after the
    last one if the text is `closed`. -/
def fileText (f : Formula) (newline : Newline) (closed : Bool) : String :=
  newline.text.intercalate f.lines ++ newline.ending closed

/-- Is the formula loaded from every file that holds its lines? -/
def LoadsBack (f : Formula) : Prop :=
  ∀ (newline : Newline) (closed : Bool) (tree : FileTree) (path : String),
    tree.read path = .ok (f.fileText newline closed).toUTF8 → load tree path = .ok f

theorem Writable.ne_nil_of_mem_lines (h : f.Writable) : ∀ line ∈ f.lines, line.toList ≠ [] := by
  intro line hline hnil
  obtain ⟨c, hc, rfl⟩ := List.mem_map.mp hline
  have hw : ClauseSpec.Written c.text.toList c :=
    ClauseSpec.written_text (h c hc).1 (h c hc).2 (List.forall_mem_nil _)
  rw [hnil] at hw
  exact absurd hw.not_blank (by decide)

/-- What is read from the text of a file for the formula. If there are no clauses, the text is at
    most one line end, hence a blank line. -/
theorem parseLines_fileText (newline : Newline) (closed : Bool) (hw : f.Writable)
    (hu : f.Unbroken) :
    parseLines (linesOf (String.ofList
      (Text.foldNewlines (f.fileText newline closed).toList))) = .ok f := by
  by_cases hf : f = []
  · subst hf
    cases newline <;> cases closed <;> decide
  · have hlines : ∀ line ∈ f.lines.map String.toList, Text.IsLine line ∧ line ≠ [] := by
      intro line hline
      obtain ⟨text, htext, rfl⟩ := List.mem_map.mp hline
      exact ⟨hu.isLine_of_mem_lines text htext, hw.ne_nil_of_mem_lines text htext⟩
    have hne : f.lines.map String.toList ≠ [] := by
      simpa [lines] using hf
    rw [linesOf, String.toList_ofList, fileText, String.toList_append, String.toList_intercalate,
      Text.splitLines_foldNewlines newline closed hlines hne, List.map_map]
    have hback : String.ofList ∘ String.toList = id := funext fun s => String.ofList_toList
    rw [hback, List.map_id]
    exact parseLines_lines_iff.mpr hw

theorem loadsBack_iff : f.LoadsBack ↔ f.Writable ∧ f.Unbroken := by
  constructor
  · intro h
    -- Some file holds the lines, and what is loaded from it is writable and unbroken.
    have hload := h .lf true ⟨[(["formula"], .file (f.fileText .lf true).toUTF8)]⟩ "formula" rfl
    exact load_spec hload
  · intro ⟨hw, hu⟩ newline closed tree path hread
    exact load_eq_ok_iff.mpr
      ⟨_, readText_of_read_toUTF8 hread, parseLines_fileText newline closed hw hu⟩

/-- Trimming leaves a line break inside a name, but it cuts the line of its clause. -/
example : Writable [[⟨"a\x0bb", false⟩]] ∧ ¬ LoadsBack [[⟨"a\x0bb", false⟩]] := by
  rw [loadsBack_iff]
  unfold Unbroken
  decide

/-- The file that a formula was loaded from can be written anew. -/
theorem exists_write_of_load {tree : FileTree} {path : String} (h : load tree path = .ok f)
    (contents : ByteArray) : ∃ tree', tree.write path contents = .ok tree' := by
  obtain ⟨text, htext, -⟩ := load_eq_ok_iff.mp h
  obtain ⟨bytes, s, hread, -, -⟩ := readText_eq_ok_iff.mp htext
  obtain ⟨way, hresolve, hnode⟩ := FileTree.read_eq_ok_iff.mp hread
  obtain rfl := FileTree.eq_wayOf hresolve
  refine ⟨_, FileTree.write_eq_ok_iff.mpr ⟨FileTree.fileWay_eq_ok_iff.mpr ⟨hresolve, ?_⟩, rfl⟩⟩
  rw [hnode]
  intro h
  cases h

/-- What is loaded from a file, whatever its bytes are, can be written in lines and holds no line
    break in a name. Just such formulas are loaded from every file with their lines, however these
    end. So what was loaded can be written to its file or to any other one, and is what is loaded
    from there. -/
theorem loads_back :
    (∀ tree path f, load tree path = .ok f → f.Writable ∧ f.Unbroken) ∧
    (∀ f : Formula, f.LoadsBack ↔ f.Writable ∧ f.Unbroken) ∧
    ∀ tree path f, load tree path = .ok f → ∀ newline closed,
      (∃ tree', tree.write path (f.fileText newline closed).toUTF8 = .ok tree') ∧
      ∀ (other : FileTree) (target : String) (tree' : FileTree),
        other.write target (f.fileText newline closed).toUTF8 = .ok tree' →
        load tree' target = .ok f := by
  refine ⟨fun tree path f h => load_spec h, fun f => loadsBack_iff, ?_⟩
  intro tree path f h newline closed
  refine ⟨exists_write_of_load h _, ?_⟩
  intro other target tree' hwrite
  have hread := (FileTree.write_eq_ok_iff.mp hwrite).read
  exact loadsBack_iff.mpr (load_spec h) newline closed tree' target hread

/-- Lines of the file end in `\r`, `\x0b`, `\u0085`, `\r\n` and `\x0c`. The blank `\x1f` ends none, so
    it can stand inside a name. -/
theorem loads_back_mixed :
    let tree : FileTree :=
      ⟨[(["plan"], .file "\x1fto\x1fbe | !a\rb\x0b c |d\u0085e\r\n \x0c".toUTF8)]⟩
    let f : Formula := [[⟨"to\x1fbe", false⟩, ⟨"a", true⟩], [⟨"b", false⟩],
      [⟨"c", false⟩, ⟨"d", false⟩], [⟨"e", false⟩]]
    load tree "plan" = .ok f ∧ f.LoadsBack ∧
      ∃ tree', tree.write "plan" (f.fileText .crlf false).toUTF8 = .ok tree' ∧
        load tree' "plan" = .ok f := by
  intro tree f
  have hread : tree.read "plan" =
      .ok "\x1fto\x1fbe | !a\rb\x0b c |d\u0085e\r\n \x0c".toUTF8 := rfl
  have hload : load tree "plan" = .ok f :=
    load_eq_ok_iff.mpr ⟨_, readText_of_read_toUTF8 hread, by decide⟩
  obtain ⟨hspec, hback, hagain⟩ := loads_back
  obtain ⟨⟨tree', hwrite⟩, hloads⟩ := hagain tree "plan" f hload .crlf false
  exact ⟨hload, (hback f).mpr (hspec tree "plan" f hload), tree', hwrite, hloads _ _ _ hwrite⟩

end Formula

end FlipSat
