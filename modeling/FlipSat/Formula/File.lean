import FlipSat.Fault
import FlipSat.Formula.Dimacs
import FlipSat.Formula.Lines

/-
  FlipSat: formulas in files. A file is UTF-8 text in one of the two formats.
-/
namespace FlipSat

/-- The text of a file, with every line break of the file as `\n`. -/
def readText (tree : FileTree) (path : String) : Except Fault String :=
  match tree.read path with
  | .error e => .error (.file e)
  | .ok bytes =>
    match Text.ofUtf8 bytes with
    | .error e => .error (.parse ⟨.notUtf8 path e.reason, none, none⟩)
    | .ok s => .ok (String.ofList (Text.foldNewlines s.toList))

/-- The lines of a text, cut at every line break. -/
def linesOf (text : String) : List String := (Text.splitLines text.toList).map String.ofList

/-- Loads a formula from a file in the line format. -/
def Formula.load (tree : FileTree) (path : String) : Except Fault Formula := do
  if !tree.exists? path then throw (.noFormulaFile path)
  let text ← readText tree path
  (Formula.parseLines (linesOf text)).mapError .parse

/-- Loads a formula from a file in DIMACS. -/
def Dimacs.load (tree : FileTree) (path : String) : Except Fault Dimacs := do
  if !tree.exists? path then throw (.noDimacsFile path)
  let text ← readText tree path
  (Dimacs.parse text).mapError .parse

end FlipSat
