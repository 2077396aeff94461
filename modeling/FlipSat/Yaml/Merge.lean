import FlipSat.Yaml.Node

/-
  FlipSat: what a YAML mapping takes over from others by its merge entries, as far as keys go. Where
  a mapping may not name a text twice, this holds for the mappings it takes from as well, and for
  what they have taken over themselves if they stand elsewhere in the document too.
-/
namespace FlipSat.Yaml

/-- Does no text occur twice? -/
def allDistinct : List String → Bool
  | [] => true
  | s :: ss => !ss.contains s && allDistinct ss

/-- The texts that a mapping names itself. -/
def ownTexts (entries : List (Node × Node)) : List String := entries.filterMap (·.1.text?)

/-- What an entry is called once merging is done: its text, also if it is the default entry. -/
def Node.name? (key : Node) : Option String :=
  match key.target with
  | .scalar .text s | .scalar .default s => some s
  | _ => none

/-- Is something with a name taken over by a mapping that names some texts itself? Only where texts
    may be repeated does it stay if the mapping names it too. -/
def isTaken (d : Dialect) (own : List String) (name : Option String) : Bool :=
  d.repeatedKeys || !(name.map own.contains).getD false

mutual

/-- The names in a mapping once merging is done: those taken over, and its own. -/
def namesIn (d : Dialect) : List (Node × Node) → List String × List String
  | [] => ([], [])
  | (key, node) :: es =>
    let (taken, own) := namesIn d es
    if key.isMerge then (namesOf d node ++ taken, own) else (taken, key.name?.toList ++ own)

/-- The names that a mapping, or each of several, has to give. -/
def namesOf (d : Dialect) : Node → List String
  | .reference _ node => namesOf d node
  | .mapping _ entries =>
    let (taken, own) := namesIn d entries
    taken.filter (fun s => isTaken d (ownTexts entries) (some s)) ++ own
  | .sequence _ nodes => namesOfAll d nodes
  | _ => []

def namesOfAll (d : Dialect) : List Node → List String
  | [] => []
  | node :: nodes => namesOf d node ++ namesOfAll d nodes

end

mutual

/-- Can a mapping take over what a node holds? It has to be a mapping or a list of mappings. What
    stands elsewhere too is merged a second time, and may not name a text twice then. -/
def isSource (d : Dialect) (listed again : Bool) : Node → Bool
  | .reference _ node => isSource d listed true node
  | .mapping tag entries =>
    (d.repeatedKeys || (allDistinct (ownTexts entries) &&
      (!again || allDistinct (namesOf d (.mapping tag entries))))) && hasSources d entries
  | .sequence _ nodes => !listed && areSources d again nodes
  | .cycle => true
  | .scalar _ _ => false

def areSources (d : Dialect) (again : Bool) : List Node → Bool
  | [] => true
  | node :: nodes => isSource d true again node && areSources d again nodes

/-- Can a mapping take over all that its merge entries ask for? -/
def hasSources (d : Dialect) : List (Node × Node) → Bool
  | [] => true
  | (key, node) :: es => (!key.isMerge || isSource d false false node) && hasSources d es

end

/-- Can the entries of a mapping be merged? -/
def mergesWell (d : Dialect) (entries : List (Node × Node)) : Bool :=
  (d.repeatedKeys || allDistinct (ownTexts entries)) && hasSources d entries

end FlipSat.Yaml
