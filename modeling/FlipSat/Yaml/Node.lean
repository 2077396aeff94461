import FlipSat.Yaml.Tag
import FlipSat.Yaml.Token

/-
  FlipSat: the tree that the tokens of a YAML text stand for. A reference to an anchor holds the
  node that it names.
-/
namespace FlipSat.Yaml

/-- A node with its tag. A reference to a node comes with the size of that node, and `cycle` stands
    for a reference to a node around it. -/
inductive Node where
  | scalar (tag : Tag) (text : String)
  | sequence (tag : Tag) (items : List Node)
  | mapping (tag : Tag) (entries : List (Node × Node))
  | reference (size : Nat) (target : Node)
  | cycle
deriving Inhabited

namespace Node

/-- The node itself, or the one that a reference stands for. -/
def target : Node → Node
  | .reference _ node => node
  | node => node

/-- The tag of a scalar. -/
def scalarTag? (node : Node) : Option Tag :=
  match node.target with
  | .scalar tag _ => some tag
  | _ => none

/-- Is the node the key of a default setting? -/
def isDefault (node : Node) : Bool := node.scalarTag? == some .default

/-- Is the node the key of what a mapping takes over? -/
def isMerge (node : Node) : Bool := node.scalarTag? == some .merge

/-- The text of a scalar that is a text. -/
def text? (node : Node) : Option String :=
  match node.target with
  | .scalar .text s => some s
  | _ => none

mutual

/-- How many nodes there are once references are replaced by what they stand for; none for a node
    that contains itself. -/
def size? : Node → Option Nat
  | .scalar _ _ => some 1
  | .sequence _ items => (sizeOfItems? items).map (· + 1)
  | .mapping _ entries => (sizeOfEntries? entries).map (· + 1)
  | .reference size _ => some size
  | .cycle => none

def sizeOfItems? : List Node → Option Nat
  | [] => some 0
  | node :: nodes => do
    let m ← node.size?
    let n ← sizeOfItems? nodes
    pure (m + n)

def sizeOfEntries? : List (Node × Node) → Option Nat
  | [] => some 0
  | (key, node) :: es => do
    let k ← key.size?
    let m ← node.size?
    let n ← sizeOfEntries? es
    pure (k + m + n)

end


/-- The tokens that are left, what handles of tags stand for, the nodes with anchors, and how many
    nodes references have stood for so far. -/
structure Source where
  tokens : List Token
  dialect : Dialect
  drawn : Nat := 0
  handles : List (String × String) := []
  anchors : List (String × Node) := []

abbrev Read := StateT Source (Except Raised)

/-- The next token; a fault among the tokens is one of reading them. -/
def peekToken : Read Token := do
  match (← get).tokens with
  | .fault e :: _ => throw e
  | t :: _ => return t
  | [] => throw .yaml

def dropToken : Read Unit := modify fun s => { s with tokens := s.tokens.tail }

/-- Drops a token that has to come next. -/
def expect (p : Token → Bool) : Read Unit := do
  if p (← peekToken) then dropToken else throw .yaml

/-- What a value left out stands for. -/
def missing : Node := .scalar .null ""

/-- The anchor and the tag in front of a node, in either order. -/
def properties : Read (Option String × Option (Option String × String)) := do
  match ← peekToken with
  | .anchor name =>
    dropToken
    match ← peekToken with
    | .tag handle suffix =>
      dropToken
      return (some name, some (handle, suffix))
    | _ => return (some name, none)
  | .tag handle suffix =>
    dropToken
    match ← peekToken with
    | .anchor name =>
      dropToken
      return (some name, some (handle, suffix))
    | _ => return (none, some (handle, suffix))
  | _ => return (none, none)

/-- The name that a tag stands for. -/
def tagName (handle : Option String) (suffix : String) : Read String := do
  match handle with
  | none => return suffix
  | some h =>
    match (← get).handles.lookup h with
    | some start => return start ++ suffix
    | none => throw .yaml

/-- The tag of a sequence or a mapping: its own sort, unless another is given. -/
def collectionTag (given : Option String) (own : Tag) : Tag :=
  match given with
  | none | some "!" => own
  | some name => .ofName name

/-- The tag of a scalar. Without a tag a plain one has the sort of its form and a quoted one is a
    text; `!` gives any the sort of its form. -/
def scalarTag (d : Dialect) (given : Option String) (text : String) (plain : Bool) : Tag :=
  match given with
  | none => if plain then .ofForm d text else .text
  | some "!" => .ofForm d text
  | some name => .ofName name

/-- The scalar that an anchor or a tag stands for when nothing follows it. -/
def emptyScalar (d : Dialect) (given : Option String) : Node :=
  if d.shortTags && given == some "!" then .scalar .text "" else .scalar (scalarTag d given "" true) ""

def isSequenceEnd : Token → Bool
  | .closeBracket => true
  | _ => false

def isMappingEnd : Token → Bool
  | .closeBrace => true
  | _ => false

def isComma : Token → Bool
  | .comma => true
  | _ => false

def isBlockEnd : Token → Bool
  | .blockEnd => true
  | _ => false

/-- Does the indicator of a key between square brackets have no key? -/
def isBareKey (next : Token) : Bool :=
  match next with
  | .value => true
  | next => isComma next || isSequenceEnd next

/-- Does no node follow in a block? -/
def endsEntry : Token → Bool
  | .key | .value | .blockEnd => true
  | _ => false

/-- A reference to an anchor. -/
def anchored (name : String) : Read Node := do
  match (← get).anchors.lookup name with
  | none => throw .yaml
  | some node =>
    match node.size? with
    | none => return node
    | some n =>
      modify fun s => { s with drawn := s.drawn + n }
      return .reference n node

/-- Notes the node of an anchor. -/
def remember (anchor : Option String) (node : Node) : Read Unit :=
  match anchor with
  | none => pure ()
  | some name => modify fun s => { s with anchors := (name, node) :: s.anchors }

mutual

/-- A node. In a block it may be a block collection, and after a key also a sequence at the column
    of the key. `fuel` bounds the number of steps. -/
def read (block indentless : Bool) : (fuel : Nat) → Read Node
  | 0 => throw .yaml
  | n + 1 => do
    match ← peekToken with
    | .mention name =>
      dropToken
      anchored name
    | _ =>
      let (anchor, tag) ← properties
      let given ← match tag with
        | none => pure none
        | some (handle, suffix) => some <$> tagName handle suffix
      if let some name := anchor then
        if ((← get).anchors.lookup name).isSome then throw .yaml
      let node ← content block indentless anchor given n
      remember anchor node
      return node

/-- A node after its anchor and its tag. -/
def content (block indentless : Bool) (anchor given : Option String) : (fuel : Nat) → Read Node
  | 0 => throw .yaml
  | n + 1 => do
    let d := (← get).dialect
    let sequence (items : Read (List Node)) : Read Node := do
      remember anchor .cycle
      return .sequence (collectionTag given .sequence) (← items)
    let mapping (entries : Read (List (Node × Node))) : Read Node := do
      remember anchor .cycle
      return .mapping (collectionTag given .mapping) (← entries)
    let other : Read Node := do
      if anchor.isSome || given.isSome then return emptyScalar d given else throw .yaml
    match ← peekToken with
    | .entry => if indentless then sequence (flatItems n) else other
    | .scalar text plain =>
      dropToken
      return .scalar (scalarTag d given text plain) text
    | .openBracket =>
      dropToken
      sequence (bracketItems true n)
    | .openBrace =>
      dropToken
      mapping (braceEntries true n)
    | .sequenceStart =>
      if block then
        dropToken
        sequence (blockItems n)
      else other
    | .mappingStart =>
      if block then
        dropToken
        mapping (blockEntries n)
      else other
    | _ => other

/-- The items of a block sequence. -/
def blockItems : (fuel : Nat) → Read (List Node)
  | 0 => throw .yaml
  | n + 1 => do
    match ← peekToken with
    | .entry =>
      dropToken
      let item ← match ← peekToken with
        | .entry | .blockEnd => pure missing
        | _ => read true false n
      return item :: (← blockItems n)
    | _ =>
      expect isBlockEnd
      return []

/-- The items of a sequence at the column of its key. -/
def flatItems : (fuel : Nat) → Read (List Node)
  | 0 => throw .yaml
  | n + 1 => do
    match ← peekToken with
    | .entry =>
      dropToken
      let next ← peekToken
      let item ← match next with
        | .entry => pure missing
        | _ => if endsEntry next then pure missing else read true false n
      return item :: (← flatItems n)
    | _ => return []

/-- The entries of a block mapping. -/
def blockEntries : (fuel : Nat) → Read (List (Node × Node))
  | 0 => throw .yaml
  | n + 1 => do
    let part : Read Node := do
      if endsEntry (← peekToken) then return missing else read true true n
    let first ← peekToken
    match first with
    | .key | .value => do
      let key ← match first with
        | .key => do dropToken; part
        | _ => throw .yaml
      let value ← match ← peekToken with
        | .value => do dropToken; part
        | _ => pure missing
      return (key, value) :: (← blockEntries n)
    | _ =>
      expect isBlockEnd
      return []

/-- What follows a key between brackets. -/
def flowValue (isEnd : Token → Bool) : (fuel : Nat) → Read Node
  | 0 => throw .yaml
  | n + 1 => do
    match ← peekToken with
    | .value =>
      dropToken
      let next ← peekToken
      if isComma next || isEnd next then return missing else read false false n
    | _ => return missing

/-- A key between brackets, after its indicator. -/
def flowKey (isEnd : Token → Bool) : (fuel : Nat) → Read Node
  | 0 => throw .yaml
  | n + 1 => do
    let next ← peekToken
    match next with
    | .value => return missing
    | _ => if isComma next || isEnd next then return missing else read false false n

/-- The items between square brackets. A key makes an item that is a mapping of one entry. -/
def bracketItems (first : Bool) : (fuel : Nat) → Read (List Node)
  | 0 => throw .yaml
  | n + 1 => do
    if isSequenceEnd (← peekToken) then
      dropToken
      return []
    if !first then expect isComma
    match ← peekToken with
    | .closeBracket =>
      dropToken
      return []
    | .key =>
      dropToken
      let bare := isBareKey (← peekToken)
      let key ← flowKey isSequenceEnd n
      if bare && (← get).dialect.greedyKeys then dropToken
      let value ← flowValue isSequenceEnd n
      return .mapping .mapping [(key, value)] :: (← bracketItems false n)
    | _ =>
      let item ← read false false n
      return item :: (← bracketItems false n)

/-- The entries between braces. -/
def braceEntries (first : Bool) : (fuel : Nat) → Read (List (Node × Node))
  | 0 => throw .yaml
  | n + 1 => do
    if isMappingEnd (← peekToken) then
      dropToken
      return []
    if !first then expect isComma
    match ← peekToken with
    | .closeBrace =>
      dropToken
      return []
    | .key =>
      dropToken
      let key ← flowKey isMappingEnd n
      let value ← flowValue isMappingEnd n
      return (key, value) :: (← braceEntries false n)
    | _ =>
      let key ← read false false n
      return (key, missing) :: (← braceEntries false n)

end

/-! ## Documents -/

def isDocumentStart : Token → Bool
  | .documentStart => true
  | _ => false

/-- The directives in front of a document, and the handles of tags that they make. -/
def directives (version : Bool) (handles : List (String × String)) :
    (fuel : Nat) → Read (List (String × String))
  | 0 => throw .yaml
  | n + 1 => do
    match ← peekToken with
    | .version major minor =>
      let known := !(← get).dialect.knownDirectives || minor == 1 || minor == 2
      if version || major != 1 || !known then throw .yaml
      dropToken
      directives true handles n
    | .tagPrefix handle start =>
      if (handles.lookup handle).isSome then throw .yaml
      dropToken
      directives version ((handle, start) :: handles) n
    | .otherDirective =>
      dropToken
      directives version handles n
    | _ => return handles

/-- The handles of tags that every document has. -/
def defaultHandles : List (String × String) := [("!", "!"), ("!!", "tag:yaml.org,2002:")]

/-- Skips document ends. -/
def skipEnds : (fuel : Nat) → Read Unit
  | 0 => pure ()
  | n + 1 => do
    if let .documentEnd ← peekToken then
      dropToken
      skipEnds n

/-- The node of the only document, if there is one. -/
def single (fuel : Nat) : Read (Option Node) := do
  let root ← match ← peekToken with
    | .streamEnd => pure none
    | .version _ _ | .tagPrefix _ _ | .otherDirective | .documentStart => do
      let handles ← directives false [] fuel
      modify fun s => { s with handles := handles ++ defaultHandles }
      expect isDocumentStart
      match ← peekToken with
      | .version _ _ | .tagPrefix _ _ | .otherDirective | .documentStart | .documentEnd
      | .streamEnd => pure (some missing)
      | _ => some <$> read true false fuel
    | _ => do
      modify fun s => { s with handles := defaultHandles }
      some <$> read true false fuel
  skipEnds fuel
  match ← peekToken with
  | .streamEnd => return root
  | _ => throw .yaml

/-- The node of the only document in a text. Where references are limited, none may lead to a node
    around it. -/
def ofText (d : Dialect) (text : List Char) : Except Raised (Option Node) := do
  let ts := tokens d text
  let (root, source) ← (single (4 * ts.length + 16)).run { tokens := ts, dialect := d }
  match root, d.referenceLimit with
  | some node, some limit =>
    if node.size?.isSome && source.drawn ≤ limit then pure root else throw .yaml
  | _, _ => pure root

end Node

end FlipSat.Yaml
