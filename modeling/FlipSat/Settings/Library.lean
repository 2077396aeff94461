import FlipSat.FileTree
import FlipSat.Settings.Fault

/-
  FlipSat: the library that settings are kept with, as far as they use it. Settings stand in
  documents of the library, and what is done with documents is up to it; it can raise a fault
  wherever it is called. `Document` is one such library; what is relied on of all of them is said
  by `LawfulLibrary` and `FileLoader`.
-/
namespace FlipSat

/-- A library of settings, whose documents are of type `γ`. -/
class SettingsLibrary (γ : Type) where
  /-- A new document that holds a value. -/
  create : Value → Except Raised γ
  /-- The document in a YAML file. -/
  load : FileTree → String → Except Raised γ
  /-- A new document: the first with the second merged into it. -/
  merge : γ → γ → Except Raised γ
  /-- A new document: the first with a plain value merged into it. -/
  mergeValue : γ → Value → Except Raised γ
  /-- Puts a value at a dotted key of a document; a table or a list is merged into one that stands
      there. The document is changed in place, and a fault can stop the change half way. -/
  update : γ → String → Value → γ × Option Raised
  /-- The value at a dotted key, with references replaced by what they stand for; null if there is
      none. -/
  select : γ → String → Except Raised Value
  /-- What a document holds as a plain value, with references as texts or replaced by what they
      stand for. -/
  toContainer : γ → (resolved : Bool) → Except Raised Value
  /-- The YAML text of a document; references stay texts. -/
  toYaml : γ → Except Raised String
  /-- The value of a YAML text. -/
  safeLoad : String → Except Raised Value

end FlipSat
