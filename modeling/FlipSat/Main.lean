import FlipSat.CommandLine.Basic
import FlipSat.Document.Basic

/-
  FlipSat: the program itself. It looks for the files that its arguments name, runs, and then
  writes what the run has changed. Time is counted in readings of the clock, 1024 of them
  a second, so a run with a seed can be repeated; the clock on the wall starts with it at zero.
-/
namespace FlipSat

/-- The texts among the arguments that can be paths. -/
def pathsIn (args : List String) : List String :=
  (args.flatMap fun a => (a.splitOn "=").filter (· != "")).eraseDups

/-- The path of the directory that a path leads into. -/
def parentOf (path : String) : String := "/".intercalate (path.splitOn "/").dropLast

/-- Adds a directory of the disk to a tree. -/
def addDirectory (tree : FileTree) (path : String) : IO FileTree := do
  if path == "" then return tree
  match ← (IO.FS.realPath path).toBaseIO with
  | .ok place =>
    if ← place.isDir then return (tree.makeDirectories path).toOption.getD tree
    return tree
  | .error _ => return tree

/-- Adds what stands on the disk at a path to a tree. -/
def addPath (tree : FileTree) (path : String) : IO FileTree := do
  let tree ← addDirectory tree (parentOf path)
  let tree ← addDirectory tree path
  match ← (IO.FS.readBinFile path).toBaseIO with
  | .ok bytes => return (tree.write path bytes).toOption.getD tree
  | .error _ => return tree

/-- Writes the files of a tree that another tree does not hold alike. -/
def writeChanges (before after : FileTree) : IO Unit := do
  let old := before.files
  for (path, bytes) in after.files do
    if old.lookup path != some bytes then
      let parent := parentOf path
      if parent != "" then IO.FS.createDirAll parent
      IO.FS.writeBinFile path bytes

/-- Runs the program on the files of the disk. -/
def runOnDisk (args : List String) : IO UInt32 := do
  let files ← (pathsIn args).foldlM addPath ({} : FileTree)
  let seed ← IO.rand 0 (Nat.pow 2 31)
  let clock := Clock.steady (.ofScaled false 1 (-10))
  let wall : WallClock :=
    { seconds := clock.reading, date := fun n => (clock.reading n).toText ++ " s" }
  let traceback (e : Fault) : String :=
    "Traceback (most recent call last):\n" ++ e.kind ++ ": " ++ e.message ++ "\n"
  let outcome := CommandLine.run Document args
    { files := files, clock := clock, wall := wall, entropy := seed, traceback := traceback }
  writeChanges files outcome.files
  IO.print outcome.output
  IO.eprint outcome.errorText
  match outcome.ending with
  | .failed e =>
    IO.eprintln (e.kind ++ ": " ++ e.message)
    return 1
  | ending => return (UInt32.ofNat (ending.code?.getD 0))

end FlipSat

def main (args : List String) : IO UInt32 := FlipSat.runOnDisk args
