import FlipSat.Text.Quoted
import FlipSat.Text.Lines
import FlipSat.Text.Utf8
import FlipSat.Text.Blank

/-
  FlipSat: a small tree of directories and files, addressed by paths. It is the only store that
  the program reads from and writes to.
-/
namespace FlipSat

/-- What stands at a path. -/
inductive FileNode where
  | directory
  | file (contents : ByteArray)

/-- Why a path cannot be used. -/
inductive FileFault where
  | notFound (path : String)
  | isDirectory (path : String)
  | notDirectory (path : String)
  | alreadyExists (path : String)
  | nameTooLong (path : String)
  | holdsNul
deriving DecidableEq, Repr

def FileFault.message : FileFault → String
  | .notFound path => "[Errno 2] No such file or directory: " ++ Text.quoted path
  | .isDirectory path => "[Errno 21] Is a directory: " ++ Text.quoted path
  | .notDirectory path => "[Errno 20] Not a directory: " ++ Text.quoted path
  | .alreadyExists path => "[Errno 17] File exists: " ++ Text.quoted path
  | .nameTooLong path => "[Errno 36] File name too long: " ++ Text.quoted path
  | .holdsNul => "embedded null byte"

/-- Files and directories by the names on the way to them, which starts where the program runs.
    That place is always there, and so are the places above it. -/
structure FileTree where
  nodes : List (List String × FileNode) := []

namespace FileTree

/-- The name at the start of ways that start at the root of all places. -/
def top : String := "/"

/-- The node at the end of a way of names. -/
def node? (t : FileTree) (way : List String) : Option FileNode :=
  if way == [top] || way.all (· == "..") then some .directory else t.nodes.lookup way

/-- The names in a path, and whether the path ends in a separator. -/
def parts (path : String) : List String × Bool :=
  let pieces := (Text.splitOn '/' path.toList).map String.ofList
  let names := pieces.filter (· != "")
  (if pieces.length > 1 && pieces.head? == some "" then top :: names else names,
    pieces.length > 1 && pieces.getLast? == some "")

/-- The most bytes of a name, and of a path. -/
def maxNameSize : Nat := 255

def maxPathSize : Nat := 4095

/-- Why a name cannot be looked for, if it cannot. -/
def nameFault? (path name : String) : Option FileFault :=
  if name.toList.contains '\x00' then some .holdsNul
  else if maxNameSize < name.utf8ByteSize then some (.nameTooLong path)
  else none

/-- Why a path cannot be followed at all, if it cannot. -/
def pathFault? (path : String) : Option FileFault :=
  if path == "" then some (.notFound path)
  else if path.toList.contains '\x00' then some .holdsNul
  else if maxPathSize < path.utf8ByteSize then some (.nameTooLong path)
  else none

/-- The way to what a name means in the directory at a way. -/
def step (way : List String) (name : String) : List String :=
  if name == "." then way
  else if name == ".." then
    if way == [top] then way
    else match way.getLast? with
      | none | some ".." => way ++ [name]
      | some _ => way.dropLast
  else way ++ [name]

/-- Follows names from a directory; every name but the last has to lead to a directory. -/
def follow (t : FileTree) (path : String) :
    List String → List String → Except FileFault (List String)
  | way, [] => .ok way
  | way, name :: names =>
    match t.node? way, nameFault? path name with
    | none, _ => .error (.notFound path)
    | some (.file _), _ => .error (.notDirectory path)
    | some .directory, some e => .error e
    | some .directory, none => follow t path (step way name) names

/-- The way that a path stands for, and whether the path ends in a separator. -/
def resolve (t : FileTree) (path : String) : Except FileFault (List String × Bool) := do
  if let some e := pathFault? path then throw e
  let (names, closed) := parts path
  let way ← follow t path [] names
  pure (way, closed)

/-- Does anything stand at the path? -/
def exists? (t : FileTree) (path : String) : Bool :=
  match t.resolve path with
  | .ok (way, closed) =>
    match t.node? way with
    | some .directory => true
    | some (.file _) => !closed
    | none => false
  | .error _ => false

/-- The bytes of the file at the path. -/
def read (t : FileTree) (path : String) : Except FileFault ByteArray := do
  let (way, closed) ← t.resolve path
  match t.node? way with
  | none => throw (.notFound path)
  | some .directory => throw (.isDirectory path)
  | some (.file contents) => if closed then throw (.notDirectory path) else pure contents

/-- Puts a node at the end of a way. -/
def put (t : FileTree) (way : List String) (node : FileNode) : FileTree :=
  match t.nodes.lookup way with
  | none => ⟨t.nodes ++ [(way, node)]⟩
  | some _ => ⟨t.nodes.map fun e => if e.1 == way then (way, node) else e⟩

/-- The way at which the path puts a file. -/
def fileWay (t : FileTree) (path : String) : Except FileFault (List String) := do
  let (way, closed) ← t.resolve path
  match t.node? way with
  | some .directory => throw (.isDirectory path)
  | _ => if closed then throw (.isDirectory path) else pure way

/-- Puts a file with the given bytes at the path, in place of a file that stands there. -/
def write (t : FileTree) (path : String) (contents : ByteArray) : Except FileFault FileTree := do
  let way ← t.fileWay path
  pure (t.put way (.file contents))

/-- Adds text to the end of the file at the path, which is made if it is not there. -/
def append (t : FileTree) (path : String) (text : String) : Except FileFault FileTree := do
  let way ← t.fileWay path
  match t.node? way with
  | some (.file contents) => pure (t.put way (.file (contents ++ text.toUTF8)))
  | _ => pure (t.put way (.file text.toUTF8))

/-- Makes the directories named one after the other below a way, where they are missing. -/
def makeBelow (t : FileTree) (path : String) (way : List String) :
    List String → Except FileFault FileTree
  | [] => .ok t
  | name :: names =>
    let next := step way name
    match t.node? way, nameFault? path name, t.node? next with
    | some .directory, some e, _ => .error e
    | some .directory, none, none => makeBelow (t.put next .directory) path next names
    | some .directory, none, some (.file _) =>
      if names.isEmpty then .error (.alreadyExists path) else makeBelow t path next names
    | some .directory, none, some .directory => makeBelow t path next names
    | _, _, _ => .error (.notDirectory path)

/-- Makes the directory at the path, with the directories on the way to it. -/
def makeDirectories (t : FileTree) (path : String) : Except FileFault FileTree :=
  if path == "" then .error (.notFound path)
  else if maxPathSize < path.utf8ByteSize then .error (.nameTooLong path)
  else makeBelow t path [] (parts path).1

/-- The path without detours: every `..` takes back the name in front of it. -/
def direct (path : String) : String :=
  let names := (parts path).1.foldl step []
  if names.isEmpty then "." else "/".intercalate names

/-- The path of a name below a directory. -/
def join (directory name : String) : String :=
  if name.startsWith "/" then name
  else if directory == "" || directory.endsWith "/" then directory ++ name
  else directory ++ "/" ++ name

/-- All files, by the text of their paths. -/
def files (t : FileTree) : List (String × ByteArray) :=
  let all := t.nodes.filterMap fun e => match e with
    | (way, .file contents) => some ("/".intercalate way, contents)
    | _ => none
  all.mergeSort fun a b => !(b.1 < a.1)

end FileTree

end FlipSat
