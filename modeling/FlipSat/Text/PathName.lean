import FlipSat.Text.Blank

/-
  FlipSat: paths as texts. Pieces are joined by slashes, empty pieces and single dots fall out, and
  a piece that starts at the root makes the pieces in front of it void.
-/
namespace FlipSat.Text.PathName

/-- The root that a piece starts at: none, one slash, or exactly two. -/
def rootOf (s : List Char) : List Char :=
  match s with
  | '/' :: '/' :: '/' :: _ => ['/']
  | '/' :: '/' :: _ => ['/', '/']
  | '/' :: _ => ['/']
  | _ => []

/-- The names between the slashes of a piece. -/
def namesIn (s : List Char) : List (List Char) :=
  (nonemptyPieces (· == '/') s).filter (· != ['.'])

/-- The root and the names of some pieces, one after the other. -/
def partsOf (pieces : List (List Char)) : List Char × List (List Char) :=
  pieces.foldl (fun (root, names) piece =>
    if (rootOf piece).isEmpty then (root, names ++ namesIn piece) else (rootOf piece, namesIn piece))
    ([], [])

/-- The path that some pieces make; one without names is the current directory. -/
def join (pieces : List String) : String :=
  let (root, names) := partsOf (pieces.map String.toList)
  let text := root ++ ['/'].intercalate names
  if text.isEmpty then "." else String.ofList text

/-- The root, if there is one, and the names of a path. -/
def parts (path : String) : List String :=
  let (root, names) := partsOf [path.toList]
  ((if root.isEmpty then [] else [root]) ++ names).map String.ofList

end FlipSat.Text.PathName
