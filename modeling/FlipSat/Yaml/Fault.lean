import FlipSat.Settings.Fault

/-
  FlipSat: what can be wrong with a YAML text, and with the values that are made of it.
-/
namespace FlipSat.Raised

def yaml : Raised := ⟨"YAMLError", [.yaml], "the text is not well formed"⟩

def badNumber : Raised := ⟨"ValueError", [.value], "a number cannot be read"⟩

def emptyNumber : Raised := ⟨"IndexError", [], "a number has no digits"⟩

def badDate : Raised := ⟨"ValueError", [.value], "there is no such date"⟩

def noDate : Raised := ⟨"AttributeError", [], "a date cannot be read"⟩

def badEncoding : Raised :=
  ⟨"ValueError", [.value], "bytes are not the UTF-8 form of a text"⟩

def noSuchName (name : String) : Raised := ⟨"KeyError", [.key], name⟩

def mistyped (text : String) : Raised := ⟨"TypeError", [], text⟩

def tooLarge (text : String) : Raised := ⟨"OverflowError", [], text⟩

def unavailable (text : String) : Raised := ⟨"NotImplementedError", [], text⟩

def endless : Raised := ⟨"RecursionError", [], "a structure contains itself"⟩

end FlipSat.Raised
