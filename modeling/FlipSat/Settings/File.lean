import FlipSat.Settings.Basic

/-
  FlipSat: settings in files. A file is a YAML table that is merged into the defaults.
-/
namespace FlipSat.Settings

variable {γ : Type} [SettingsLibrary γ]

/-- Merges a file into the settings. -/
def loadOnto (s : Settings γ) (tree : FileTree) (path : String) : Settings γ × Option Fault :=
  if !tree.exists? path then (s, some (.config (.missingFile path)))
  else
    match SettingsLibrary.load tree path >>= SettingsLibrary.merge s.config with
    | .error r => (s, some (report [.settings, .system, .value] (.unusableFile path) r))
    | .ok d => (s.make d).commit

/-- The defaults, changed by a file. -/
def load (tree : FileTree) (path : String) : Except Fault (Settings γ) := do
  let s ← new
  required (s.loadOnto tree path)

/-- Writes the settings to a file, and makes the directories on the way to it. References stay
    references. -/
def save (s : Settings γ) (tree : FileTree) (path : String) : Except Fault FileTree := do
  let directory := "/".intercalate ((path.splitOn "/").dropLast)
  let tree ←
    if directory == "" then pure tree else (tree.makeDirectories directory).mapError .file
  let text ← (SettingsLibrary.toYaml s.config).mapError .raised
  (tree.write path text.toUTF8).mapError .file

end FlipSat.Settings
