/-
  FlipSat: the points on which readers of YAML differ, and the two dialects that are read here: one
  for single values, and one for files of settings.
-/
namespace FlipSat.Yaml

/-- A way to read YAML. -/
structure Dialect where
  /-- Tabs separate tokens as spaces do, but not where a key may start, and stand inside plain
      scalars. -/
  tabs : Bool
  /-- A byte order mark may start any line. -/
  marks : Bool
  /-- Between brackets a colon inside a plain scalar ends it only before a blank, and may not stand
      before another indicator; a question mark ends nothing. -/
  spacedColons : Bool
  /-- An empty key with its indicator between square brackets takes the next token with it. -/
  greedyKeys : Bool
  /-- Directives are those of YAML 1.1 and 1.2, and nothing else. -/
  knownDirectives : Bool
  /-- A tag holds brackets and commas only between `<` and `>`, between brackets it may end at a
      comma, and `!` in front of nothing makes an empty text. -/
  shortTags : Bool
  /-- An escape in a quoted scalar that stands for no character is a fault of the YAML itself. -/
  strictEscapes : Bool
  /-- Dates are values of their own. -/
  dates : Bool
  /-- A real number may do without its point or the sign of its exponent. -/
  looseReals : Bool
  /-- A mapping may name a text twice, and what it names itself counts at the place of what it
      takes over. -/
  repeatedKeys : Bool
  /-- Paths are values of their own. -/
  paths : Bool
  /-- How many nodes the references of a document may stand for in all; none may lead to a node
      around it then. -/
  referenceLimit : Option Nat

/-- The dialect of single values: YAML 1.1. -/
def Dialect.standard : Dialect where
  tabs := false
  marks := false
  spacedColons := false
  greedyKeys := false
  knownDirectives := false
  shortTags := false
  strictEscapes := false
  dates := true
  looseReals := false
  repeatedKeys := true
  paths := false
  referenceLimit := none

/-- The dialect of files of settings. -/
def Dialect.settings : Dialect where
  tabs := true
  marks := true
  spacedColons := true
  greedyKeys := true
  knownDirectives := true
  shortTags := true
  strictEscapes := true
  dates := false
  looseReals := true
  repeatedKeys := false
  paths := true
  referenceLimit := some 1000

end FlipSat.Yaml
