import EnrollmentDiagnosis.Yaml.Node
import EnrollmentDiagnosis.Yaml.ScalarValue

set_option autoImplicit false

namespace EnrollmentDiagnosis.Yaml

/-- True for tags of collections, whose contents are looked at later. -/
def Tag.isCollection : Tag → Bool
  | .sequence | .mapping | .set | .orderedMap | .pairs => true
  | _ => false

namespace Node

def tag : Node → Tag
  | scalar tag _ => tag
  | sequence tag _ => tag
  | mapping tag _ => tag
  | cycle isMapping => if isMapping then .mapping else .sequence

mutual

/-- The number of nodes on the longest way down. -/
def depth : Node → Nat
  | scalar .. => 1
  | cycle _ => 1
  | sequence _ items => depthOfItems items + 1
  | mapping _ entries => depthOfEntries entries + 1

def depthOfItems : List Node → Nat
  | [] => 0
  | n :: rest => max (depth n) (depthOfItems rest)

def depthOfEntries : List (Node × Node) → Nat
  | [] => 0
  | (k, v) :: rest => max (max (depth k) (depth v)) (depthOfEntries rest)

end

/-- The text of a scalar, or of the value that stands for a mapping. -/
def text? : Node → Option String
  | scalar _ text => some text
  | mapping _ entries => entriesText? entries
  | _ => none
where
  entriesText? : List (Node × Node) → Option String
    | [] => none
    | (k, v) :: rest => if k.tag = .value then text? v else entriesText? rest

/-- A key without the meaning of standing for its mapping. -/
def plainKey : Node → Node
  | scalar .value text => scalar .text text
  | n => n

mutual

/-- The entries of a mapping, where those of merged mappings come first. Of several mappings that
are merged by one key, the last one comes first. -/
def flatEntries : List (Node × Node) → Except LoadError (List (Node × Node) × List (Node × Node))
  | [] => .ok ([], [])
  | (k, v) :: rest =>
    if k.tag = .merge then
      match mergedEntries v with
      | .error e => .error e
      | .ok merged =>
        match flatEntries rest with
        | .error e => .error e
        | .ok (more, own) => .ok (merged ++ more, own)
    else
      match flatEntries rest with
      | .error e => .error e
      | .ok (merged, own) => .ok (merged, (plainKey k, v) :: own)

/-- The entries that a merged node gives. -/
def mergedEntries : Node → Except LoadError (List (Node × Node))
  | mapping _ entries => (flatEntries entries).map fun (merged, own) => merged ++ own
  | sequence _ items => mergedItems items
  | cycle _ => .ok []
  | scalar .. => .error .malformed

def mergedItems : List Node → Except LoadError (List (Node × Node))
  | [] => .ok []
  | item :: rest =>
    match item with
    | mapping _ entries =>
      match flatEntries entries with
      | .error e => .error e
      | .ok (merged, own) => (mergedItems rest).map (· ++ (merged ++ own))
    | cycle true => mergedItems rest
    | _ => .error .malformed

end

/-- The entries of a mapping with all merges carried out. -/
def entries (own : List (Node × Node)) : Except LoadError (List (Node × Node)) :=
  (flatEntries own).map fun (merged, own) => merged ++ own

/-- The value that the text of a node has under its tag. A time is looked for in the node itself,
and never in what stands for a mapping. -/
def textValue (n : Node) : Except LoadError Value :=
  match n.text?, n with
  | none, _ => .error .malformed
  | some _, mapping .timestamp _ => .error .notText
  | some text, n => scalarValue n.tag text

/-- Looks at a node: a scalar must fit its tag, and a collection is left for later. -/
def glance (n : Node) : Except LoadError (List Node) :=
  if n.tag.isCollection then .ok [n] else n.textValue.map fun _ => []

def glanceAll : List Node → Except LoadError (List Node)
  | [] => .ok []
  | n :: rest => do return (← glance n) ++ (← glanceAll rest)

/-- Keys are no collections. -/
def glanceEntries : List (Node × Node) → Except LoadError (List Node)
  | [] => .ok []
  | (k, v) :: rest => do
    let _ ← glance k
    if k.tag.isCollection then throw .malformed
    return (← glance v) ++ (← glanceEntries rest)

/-- Pairs are mappings with one entry each. -/
def glancePairs : List Node → Except LoadError (List Node)
  | [] => .ok []
  | mapping _ [(k, v)] :: rest => do return (← glance k) ++ (← glance v) ++ (← glancePairs rest)
  | _ :: _ => .error .malformed

/-- Looks at the contents of a collection. -/
def contents (n : Node) : Except LoadError (List Node) :=
  match n.tag, n with
  | _, cycle _ => .ok []
  | .sequence, sequence _ items => glanceAll items
  | .mapping, mapping _ own => entries own >>= glanceEntries
  | .set, mapping _ own => entries own >>= glanceEntries
  | .orderedMap, sequence _ items => glancePairs items
  | .pairs, sequence _ items => glancePairs items
  | _, _ => .error .malformed

/-- Looks at collections level by level, which decides which of several errors is found. -/
def check : Nat → List Node → Except LoadError Unit
  | 0, _ => .ok ()
  | _, [] => .ok ()
  | fuel + 1, level => do
    let next ← level.mapM contents
    check fuel next.flatten

end Node

/-- The integer that a key is equal to. -/
def integerKey? : Value → Option Int
  | .bool b => some (if b then 1 else 0)
  | .int n => some n
  | .float x => if x.isWhole then x.truncate? else none
  | _ => none

/-- True for keys that stand for the same entry. -/
def sameKey (a b : Value) : Bool :=
  match integerKey? a, integerKey? b with
  | some m, some n => m == n
  | some _, none => false
  | none, some _ => false
  | none, none =>
    match a, b with
    | .null, .null => true
    | .float x, .float y => x == y
    | .text s, .text t => s == t
    | .bytes s, .bytes t => s == t
    | .date d, .date e => d == e
    | .time t, .time u =>
      t.offset.isSome == u.offset.isSome &&
        t.wall - t.offset.getD 0 * Time.microsecondsPerSecond ==
          u.wall - u.offset.getD 0 * Time.microsecondsPerSecond
    | _, _ => false

/-- Sets the value of a key, which keeps its place if it is there. -/
def putEntry (entries : List (Value × Value)) (k v : Value) : List (Value × Value) :=
  match entries with
  | [] => [(k, v)]
  | (key, old) :: rest =>
    if sameKey key k then (key, v) :: rest else (key, old) :: putEntry rest k v

namespace Node

/-- The value of a node that has been checked. -/
def toValue : Nat → Node → Value
  | 0, _ => .null
  | fuel + 1, n =>
    let mapping (own : List (Node × Node)) : List (Value × Value) :=
      ((entries own).toOption.getD []).foldl
        (fun done (k, v) => putEntry done (toValue fuel k) (toValue fuel v)) []
    let pair (n : Node) : Value :=
      match n with
      | .mapping _ [(k, v)] => .tuple [toValue fuel k, toValue fuel v]
      | _ => .null
    match n.tag, n with
    | _, cycle isMapping => .cycle isMapping
    | .sequence, .sequence _ items => .list (items.map (toValue fuel))
    | .mapping, .mapping _ own => .map (mapping own)
    | .set, .mapping _ own => .set ((mapping own).map Prod.fst)
    | .orderedMap, .sequence _ items => .list (items.map pair)
    | .pairs, .sequence _ items => .list (items.map pair)
    | _, n => n.textValue.toOption.getD .null

end Node

/-- The value of a document; an empty text is null. -/
def load (text : String) : Except LoadError Value := do
  match ← (Node.ofText? text).mapError SyntaxError.toLoadError with
  | none => return .null
  | some root =>
    let depth := root.depth
    Node.check (depth + 1) (← root.glance)
    return root.toValue (depth + 1)

/-- Tells the texts for which the stack is large enough. -/
abbrev Stack := String → Bool

/-- Loads a document on a stack of limited size. -/
def loadOn (stack : Stack) (text : String) : Except LoadError Value :=
  if stack text then load text else .error .stackExhausted

end EnrollmentDiagnosis.Yaml
