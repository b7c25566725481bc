import EnrollmentDiagnosis.Pattern.Property
import EnrollmentDiagnosis.Pattern.Variants

set_option autoImplicit false

namespace EnrollmentDiagnosis.Pattern

/-- Characters between two code points, or with or without a property. -/
inductive SetItem where
  | range (first last : Nat)
  | property (p : Property) (positive : Bool)
  deriving DecidableEq, Inhabited

namespace SetItem

def holds : SetItem → Nat → Bool
  | range first last, code => first ≤ code && code ≤ last
  | property p positive, code => p.holds code == positive

/-- True when some variant of the code point belongs to the item. -/
def holdsCaseless : SetItem → Nat → Bool
  | range first last, code => (variants code).any fun c => first ≤ c && c ≤ last
  | property p positive, code => p.holdsCaseless code == positive

end SetItem

/-- A set of characters: those that belong to one of the items, or all others. -/
structure CharSet where
  items : List SetItem
  negated : Bool
  caseless : Bool
  deriving DecidableEq, Inhabited

def CharSet.holds (set : CharSet) (c : Char) : Bool :=
  let inside :=
    if set.caseless then set.items.any (·.holdsCaseless c.toNat)
    else set.items.any (·.holds c.toNat)
  inside != set.negated

/-- A condition on a position of the text. -/
inductive Assertion where
  | textStart
  | lineStart
  | textEnd
  /-- The end of the text, or before a line feed that ends it. -/
  | lastLineEnd
  | lineEnd
  | wordBoundary
  | noWordBoundary
  | wordStart
  | wordEnd
  deriving DecidableEq, Inhabited

/-- A group by its number or its name. -/
inductive GroupKey where
  | number (n : Nat)
  | name (s : String)
  deriving DecidableEq, Inhabited

/-- A pattern. Parts that are tried in turn are tried in the order in which they are given. -/
inductive Node where
  | empty
  | fail
  | one (set : CharSet)
  | assertion (a : Assertion)
  | sequence (first second : Node)
  | choice (first second : Node)
  | repeated (isLazy : Bool) (least : Nat) (most : Option Nat) (body : Node)
  | group (number : Nat) (body : Node)
  /-- Only the first way in which the body matches counts. -/
  | atomic (body : Node)
  | look (ahead positive : Bool) (body : Node)
  /-- The text that a group matched last. -/
  | reference (key : GroupKey) (caseless : Bool)
  /-- One of two patterns, by whether a group has matched. -/
  | given (key : GroupKey) (yes no : Node)
  /-- One of two patterns, by what stands ahead or behind. -/
  | lookGiven (ahead positive : Bool) (test yes no : Node)
  /-- The pattern of a group, where zero is the whole. -/
  | call (key : GroupKey)
  deriving Inhabited

namespace Node

def isEmpty : Node → Bool
  | empty => true
  | _ => false

/-- One pattern after the other. -/
def ofSequence : List Node → Node
  | [] => empty
  | [a] => a
  | a :: rest => sequence a (ofSequence rest)

/-- One of several patterns. -/
def ofChoices : List Node → Node
  | [] => empty
  | [a] => a
  | a :: rest => choice a (ofChoices rest)

/-- The groups that a pattern asks for in its references, choices and calls. -/
def keys : Node → List GroupKey
  | sequence a b => keys a ++ keys b
  | choice a b => keys a ++ keys b
  | repeated _ _ _ a => keys a
  | group _ a => keys a
  | atomic a => keys a
  | look _ _ a => keys a
  | reference key _ => [key]
  | given key a b => key :: keys a ++ keys b
  | lookGiven _ _ a b c => keys a ++ keys b ++ keys c
  | call key => [key]
  | _ => []

/-- The pattern of the first group with a number. -/
def groupBody? (n : Nat) : Node → Option Node
  | sequence a b => (groupBody? n a).or (groupBody? n b)
  | choice a b => (groupBody? n a).or (groupBody? n b)
  | repeated _ _ _ a => groupBody? n a
  | group number a => if number = n then some (group number a) else groupBody? n a
  | atomic a => groupBody? n a
  | look _ _ a => groupBody? n a
  | given _ a b => (groupBody? n a).or (groupBody? n b)
  | lookGiven _ _ a b c => (groupBody? n a).or ((groupBody? n b).or (groupBody? n c))
  | _ => none

end Node

end EnrollmentDiagnosis.Pattern

namespace EnrollmentDiagnosis

/-- A search pattern with the number of its groups and their names. -/
structure Pattern where
  root : Pattern.Node
  groupCount : Nat
  names : List (String × Nat)

/-- The number of a group that exists. -/
def Pattern.groupNumber? (p : Pattern) : Pattern.GroupKey → Option Nat
  | .number n => if n ≤ p.groupCount then some n else none
  | .name s => p.names.lookup s

end EnrollmentDiagnosis
