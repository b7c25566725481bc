import EnrollmentDiagnosis.Yaml.Tag
import EnrollmentDiagnosis.Yaml.Tokens

set_option autoImplicit false

namespace EnrollmentDiagnosis.Yaml

/-- A node with its tag. `cycle` stands for a collection inside itself. -/
inductive Node where
  | scalar (tag : Tag) (text : String)
  | sequence (tag : Tag) (items : List Node)
  | mapping (tag : Tag) (entries : List (Node × Node))
  | cycle (isMapping : Bool)
  deriving Inhabited

/-- What an anchor stands for: a node, or a collection that is still being read. -/
inductive Anchored where
  | node (n : Node)
  | unfinished (isMapping : Bool)
  deriving Inhabited

structure Composer where
  tokens : List Token
  anchors : List (String × Anchored)
  /-- Handles of tags with what they stand for. -/
  handles : List (String × String)

/-- A step over the tokens of a document. -/
abbrev Compose := StateT Composer (Except SyntaxError)

namespace Compose

def malformed {α : Type} : Compose α := throw .malformed

/-- The next token. Where the tokens end with a failure, that failure ends the reading. -/
def peek : Compose Token := do
  match (← get).tokens with
  | [] => return .streamEnd
  | .failure e :: _ => throw e
  | token :: _ => return token

def skip : Compose Unit := modify fun s => { s with tokens := s.tokens.tail }

/-- Skips a token if it comes next. -/
def accept (token : Token) : Compose Bool := do
  if (← peek) = token then
    skip
    return true
  else return false

def expect (token : Token) : Compose Unit := do
  unless ← accept token do malformed

def isNext (choices : List Token) : Compose Bool := return choices.contains (← peek)

def emptyNode : Node := .scalar .null ""

/-- The anchor before a node. -/
def anchor? : Compose (Option String) := do
  match ← peek with
  | .anchor name => skip; return some name
  | _ => return none

/-- The full name of the tag before a node. -/
def tag? : Compose (Option String) := do
  match ← peek with
  | .tag handle suffix =>
    skip
    match handle with
    | none => return some suffix
    | some handle =>
      match List.lookup handle (← get).handles with
      | some start => return some (start ++ suffix)
      | none => malformed
  | _ => return none

/-- The anchor and the tag before a node, in either order. -/
def properties : Compose (Option String × Option String) := do
  match ← anchor? with
  | some name => return (some name, ← tag?)
  | none =>
    let tag ← tag?
    return (← anchor?, tag)

/-- The tag of a collection: its own, unless that is left open. -/
def collectionTag (tag : Option String) (own : Tag) : Tag :=
  match tag with
  | none => own
  | some "!" => own
  | some name => Tag.ofName name

/-- The tag of a scalar: its own, or the one that its form gives to plain text. -/
def scalarTag (tag : Option String) (plain : Bool) (text : String) : Tag :=
  match tag with
  | none => if plain then Tag.ofPlain text else .text
  | some "!" => Tag.ofPlain text
  | some name => Tag.ofName name

def setAnchor (name : Option String) (anchored : Anchored) : Compose Unit := do
  match name with
  | none => return ()
  | some name => modify fun s => { s with anchors := (name, anchored) :: s.anchors }

/-- Reads a collection whose anchor can be used inside it. -/
def anchoredCollection (name : Option String) (isMapping : Bool) (read : Compose Node) :
    Compose Node := do
  setAnchor name (.unfinished isMapping)
  let node ← read
  setAnchor name (.node node)
  return node

/-- Where a node stands: this decides which collections may start. -/
inductive Place where
  | block
  /-- The key or value of a block mapping, where a sequence need not be indented. -/
  | blockEntry
  | flow
  deriving DecidableEq

mutual

/-- A node with its properties, or an alias. -/
def node : Nat → Place → Compose Node
  | 0, _ => malformed
  | fuel + 1, place => do
    match ← peek with
    | .alias name =>
      skip
      match List.lookup name (← get).anchors with
      | some (.node n) => return n
      | some (.unfinished isMapping) => return .cycle isMapping
      | none => malformed
    | _ =>
      let (name, tag) ← properties
      let known := (← get).anchors
      if name.any fun name => (List.lookup name known).isSome then malformed
      let token ← peek
      if token = .blockEntry ∧ place = .blockEntry then
        anchoredCollection name false
          (return .sequence (collectionTag tag .sequence) (← looseItems fuel))
      else match token with
        | .scalar text plain =>
          skip
          let n := Node.scalar (scalarTag tag plain text) text
          setAnchor name (.node n)
          return n
        | .flowSequenceStart =>
          skip
          anchoredCollection name false
            (return .sequence (collectionTag tag .sequence) (← flowItems fuel true))
        | .flowMappingStart =>
          skip
          anchoredCollection name true
            (return .mapping (collectionTag tag .mapping) (← flowEntries fuel true))
        | .blockSequenceStart =>
          if place = .flow then malformed
          skip
          anchoredCollection name false
            (return .sequence (collectionTag tag .sequence) (← blockItems fuel))
        | .blockMappingStart =>
          if place = .flow then malformed
          skip
          anchoredCollection name true
            (return .mapping (collectionTag tag .mapping) (← blockEntries fuel))
        | _ =>
          if name.isNone && tag.isNone then malformed
          let n := Node.scalar (scalarTag tag true "") ""
          setAnchor name (.node n)
          return n

/-- A node, or an empty one before certain tokens. -/
def nodeUnless : Nat → Place → List Token → Compose Node
  | 0, _, _ => malformed
  | fuel + 1, place, stops => do
    if ← isNext stops then return emptyNode else node fuel place

/-- The items of an indented sequence. -/
def blockItems : Nat → Compose (List Node)
  | 0 => malformed
  | fuel + 1 => do
    if ← accept .blockEntry then
      let item ← nodeUnless fuel .block [.blockEntry, .blockEnd]
      return item :: (← blockItems fuel)
    else
      expect .blockEnd
      return []

/-- The items of a sequence that is not indented. -/
def looseItems : Nat → Compose (List Node)
  | 0 => malformed
  | fuel + 1 => do
    if ← accept .blockEntry then
      let item ← nodeUnless fuel .block [.blockEntry, .key, .value, .blockEnd]
      return item :: (← looseItems fuel)
    else return []

def blockEntries : Nat → Compose (List (Node × Node))
  | 0 => malformed
  | fuel + 1 => do
    if ← accept .key then
      let k ← nodeUnless fuel .blockEntry [.key, .value, .blockEnd]
      let v ← if ← accept .value then nodeUnless fuel .blockEntry [.key, .value, .blockEnd]
        else pure emptyNode
      return (k, v) :: (← blockEntries fuel)
    else
      expect .blockEnd
      return []

/-- The items of a flow sequence, which may be pairs of a key and a value. -/
def flowItems : Nat → Bool → Compose (List Node)
  | 0, _ => malformed
  | fuel + 1, first => do
    if ← accept .flowSequenceEnd then return []
    unless first do expect .flowEntry
    if ← accept .flowSequenceEnd then return []
    let item ← if ← accept .key then do
        let k ← nodeUnless fuel .flow [.value, .flowEntry, .flowSequenceEnd]
        let v ← if ← accept .value then nodeUnless fuel .flow [.flowEntry, .flowSequenceEnd]
          else pure emptyNode
        pure (Node.mapping .mapping [(k, v)])
      else node fuel .flow
    return item :: (← flowItems fuel false)

def flowEntries : Nat → Bool → Compose (List (Node × Node))
  | 0, _ => malformed
  | fuel + 1, first => do
    if ← accept .flowMappingEnd then return []
    unless first do expect .flowEntry
    if ← accept .flowMappingEnd then return []
    let entry ← if ← accept .key then do
        let k ← nodeUnless fuel .flow [.value, .flowEntry, .flowMappingEnd]
        let v ← if ← accept .value then nodeUnless fuel .flow [.flowEntry, .flowMappingEnd]
          else pure emptyNode
        pure (k, v)
      else do
        let k ← node fuel .flow
        pure (k, emptyNode)
    return entry :: (← flowEntries fuel false)

end

/-- The handles that need no directive. -/
def defaultHandles : List (String × String) := [("!", "!"), ("!!", Tag.commonStart)]

/-- The directives of a document: at most one version, and each handle once. -/
def directives : Nat → Bool → Compose Unit
  | 0, _ => malformed
  | fuel + 1, hasVersion => do
    match ← peek with
    | .directive d =>
      skip
      match d with
      | .version major =>
        if hasVersion || major != 1 then malformed
        directives fuel true
      | .tag handle start =>
        let s ← get
        if (List.lookup handle s.handles).isSome then malformed
        set { s with handles := (handle, start) :: s.handles }
        directives fuel hasVersion
      | .other => directives fuel hasVersion
    | _ => return ()

/-- Skips the marks that end a document. -/
def skipEnds : Nat → Compose Unit
  | 0 => return ()
  | fuel + 1 => do if ← accept .documentEnd then skipEnds fuel

def isDirective : Token → Bool
  | .directive _ => true
  | _ => false

/-- The one document of a text, none in an empty text. -/
def document (fuel : Nat) : Compose (Option Node) := do
  let first ← peek
  let root ←
    if isDirective first || first = .documentStart || first = .streamEnd then do
      skipEnds fuel
      if (← peek) = .streamEnd then return none
      directives fuel false
      expect .documentStart
      modify fun s => { s with handles := s.handles ++ defaultHandles }
      let next ← peek
      if isDirective next || [Token.documentStart, .documentEnd, .streamEnd].contains next then
        pure emptyNode
      else node fuel .block
    else do
      modify fun s => { s with handles := defaultHandles }
      node fuel .block
  skipEnds fuel
  expect .streamEnd
  return some root

end Compose

/-- The node of a document. -/
def Node.ofText? (text : String) : Except SyntaxError (Option Node) :=
  let all := tokens text
  (Compose.document (4 * all.length + 8)).run' ⟨all, [], []⟩

end EnrollmentDiagnosis.Yaml
