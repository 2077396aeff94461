import FlipSat.Yaml.Fault

/-
  FlipSat: what can be wrong with a change of a document, and with a reference in one.
-/
namespace FlipSat

namespace Raised

def malformedReference : Raised :=
  ⟨"GrammarParseError", [.settings], "a reference is not closed"⟩

def foreignValue : Raised :=
  ⟨"UnsupportedValueType", [.settings, .value], "a value of this sort cannot be kept"⟩

def badKey : Raised :=
  ⟨"KeyValidationError", [.settings, .value], "a key of this sort cannot be kept"⟩

def clashingKeys : Raised :=
  ⟨"KeyValidationError", [.settings, .value],
    "a number and its digits cannot both be keys of one table"⟩

def noSuchIndex : Raised := ⟨"ConfigIndexError", [.settings], "the list has no such place"⟩

def fixedTuple : Raised := ⟨"ConfigTypeError", [.settings], "a tuple never changes"⟩

def otherShape : Raised :=
  ⟨"ConfigTypeError", [.settings], "a table and a list cannot be merged"⟩

def notTable : Raised := ⟨"ValueError", [.value], "only a table can be merged into settings"⟩

def notDocument : Raised := ⟨"OSError", [.system], "the file holds no settings"⟩

def tooManyDigits : Raised :=
  ⟨"ValueError", [.value], "an integer has too many digits to be written"⟩

end Raised

/-- Why there is nothing at the end of a way: nothing stands there, a reference on it leads nowhere,
    it leads through a single value or back to where it stands, or what it leads to contains
    itself. -/
inductive ReferenceFault where
  | missing
  | dangling
  | unresolvable
  | endless
deriving DecidableEq, Repr

def ReferenceFault.raised : ReferenceFault → Raised
  | .missing => ⟨"ConfigKeyError", [.settings, .key], "nothing stands there"⟩
  | .dangling => ⟨"InterpolationKeyError", [.settings], "a reference leads nowhere"⟩
  | .unresolvable => ⟨"InterpolationResolutionError", [.settings],
      "a reference leads through a single value or back to itself"⟩
  | .endless => .endless

end FlipSat
