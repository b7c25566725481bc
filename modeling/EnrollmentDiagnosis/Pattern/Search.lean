import EnrollmentDiagnosis.Pattern.Syntax
import Std.Data.HashSet

set_option autoImplicit false

namespace EnrollmentDiagnosis.Pattern

/-- A position in the text and the spans of the recorded groups. -/
structure MatchState where
  position : Nat
  spans : List (Option (Nat × Nat))
  deriving BEq, Hashable, Inhabited

/-- A pattern and the text in which it is looked for. -/
structure Subject where
  pattern : Pattern
  text : Array Char
  /-- The groups whose spans matter. -/
  recorded : List Nat

/-- The first of each group of equal states. -/
def distinct (states : List MatchState) : List MatchState :=
  let step (acc : Std.HashSet MatchState × List MatchState) (s : MatchState) :=
    if acc.1.contains s then acc else (acc.1.insert s, s :: acc.2)
  match states with
  | [] => []
  | [s] => [s]
  | _ => (states.foldl step (∅, [])).2.reverse

namespace Subject

def charAt? (subject : Subject) (position : Nat) : Option Char := subject.text[position]?

def charBefore? (subject : Subject) (position : Nat) : Option Char :=
  if position = 0 then none else subject.text[position - 1]?

def isWordAt (c : Option Char) : Bool :=
  match c with
  | some c => Property.isWord c.toNat
  | none => false

def Assertion.holds (subject : Subject) (a : Assertion) (position : Nat) : Bool :=
  let size := subject.text.size
  let before := isWordAt (subject.charBefore? position)
  let after := isWordAt (subject.charAt? position)
  match a with
  | .textStart => position == 0
  | .lineStart => position == 0 || subject.charBefore? position == some '\n'
  | .textEnd => position == size
  | .lastLineEnd =>
    position == size || (position + 1 == size && subject.charAt? position == some '\n')
  | .lineEnd => position == size || subject.charAt? position == some '\n'
  | .wordBoundary => before != after
  | .noWordBoundary => before == after
  | .wordStart => !before && after
  | .wordEnd => before && !after

/-- The position behind a character of a set, in the direction of the search. -/
def step? (subject : Subject) (forward : Bool) (set : CharSet) (position : Nat) : Option Nat :=
  if forward then
    match subject.charAt? position with
    | some c => if set.holds c then some (position + 1) else none
    | none => none
  else
    match subject.charBefore? position with
    | some c => if set.holds c then some (position - 1) else none
    | none => none

def same (caseless : Bool) (a b : Char) : Bool :=
  if caseless then sameLetter a.toNat b.toNat else a == b

/-- The position behind a repetition of the text of a span. -/
def repeat? (subject : Subject) (forward caseless : Bool) (span : Nat × Nat) (position : Nat) :
    Option Nat :=
  let length := span.2 - span.1
  let start := if forward then position else position - length
  let fits :=
    if forward then decide (position + length ≤ subject.text.size) else decide (length ≤ position)
  let equal := (List.range length).all fun i =>
    same caseless (subject.text.getD (span.1 + i) ' ') (subject.text.getD (start + i) ' ')
  if fits && equal then some (if forward then position + length else start) else none

/-- The span of a group in a state, if it has matched. -/
def span? (subject : Subject) (key : GroupKey) (s : MatchState) : Option (Nat × Nat) := do
  let number ← subject.pattern.groupNumber? key
  (s.spans[number]?).join

/-- Records the span between two positions for a group. -/
def record (number start : Nat) (s : MatchState) : MatchState :=
  { s with spans := s.spans.set number (some (min start s.position, max start s.position)) }

/-- The states that repetitions lead to, the latest first, and what was visited on the way. -/
structure Exploration where
  visited : Std.HashSet (Nat × MatchState)
  found : List MatchState

/-- The states after any further repetitions, up to a number of them. A repetition that changes
nothing is the last one. The number of repetitions that are left is part of what is visited only
where it is bounded. -/
def explore (step : MatchState → List MatchState) (isLazy bounded : Bool) :
    Nat → Exploration → MatchState → Exploration
  | 0, e, s => { e with found := s :: e.found }
  | left + 1, e, s =>
    let key := (if bounded then left else 0, s)
    if e.visited.contains key then e
    else
      let e := { e with visited := e.visited.insert key }
      let e := if isLazy then { e with found := s :: e.found } else e
      let e := (step s).foldl (fun e t =>
        if t == s then { e with found := t :: e.found } else explore step isLazy bounded left e t) e
      if isLazy then e else { e with found := s :: e.found }

/-- The states after exactly so many repetitions. -/
def times (step : List MatchState → List MatchState) : Nat → List MatchState → List MatchState
  | 0, states => states
  | n + 1, states =>
    let next := step states
    if next.isEmpty || next == states then next else times step n next

/-- The states in which a part of the pattern ends, from the states in which it starts. -/
def run (subject : Subject) (call : Nat → Bool → List MatchState → List MatchState) :
    Bool → Node → List MatchState → List MatchState
  | _, .empty, states => states
  | _, .fail, _ => []
  | forward, .one set, states =>
    states.filterMap fun s =>
      (subject.step? forward set s.position).map fun p => { s with position := p }
  | _, .assertion a, states => states.filter fun s => Assertion.holds subject a s.position
  | forward, .sequence a b, states =>
    if forward then run subject call forward b (run subject call forward a states)
    else run subject call forward a (run subject call forward b states)
  | forward, .choice a b, states =>
    distinct (states.flatMap fun s =>
      run subject call forward a [s] ++ run subject call forward b [s])
  | forward, .repeated isLazy least most body, states =>
    let starts := times (run subject call forward body) least states
    let bound := match most with
      | some n => min (n - least) (subject.text.size + 1)
      | none => subject.text.size + 1
    let bounded := match most with
      | some n => decide (n - least ≤ subject.text.size)
      | none => false
    let step (s : MatchState) := run subject call forward body [s]
    distinct (starts.foldl (explore step isLazy bounded bound) ⟨∅, []⟩).found.reverse
  | forward, .group number body, states =>
    if subject.recorded.contains number then
      distinct (states.flatMap fun s =>
        (run subject call forward body [s]).map (record number s.position))
    else run subject call forward body states
  | forward, .atomic body, states =>
    distinct (states.filterMap fun s => (run subject call forward body [s]).head?)
  | _, .look ahead positive body, states =>
    distinct (states.filterMap fun s =>
      match (run subject call ahead body [s]).head? with
      | some t => if positive then some { t with position := s.position } else none
      | none => if positive then none else some s)
  | forward, .reference key caseless, states =>
    distinct (states.filterMap fun s => do
      let span ← subject.span? key s
      let p ← subject.repeat? forward caseless span s.position
      some { s with position := p })
  | forward, .given key yes no, states =>
    distinct (states.flatMap fun s =>
      if (subject.span? key s).isSome then run subject call forward yes [s]
      else run subject call forward no [s])
  | forward, .lookGiven ahead positive test yes no, states =>
    distinct (states.flatMap fun s =>
      match (run subject call ahead test [s]).head? with
      | some t =>
        if positive then run subject call forward yes [{ t with position := s.position }]
        else run subject call forward no [s]
      | none =>
        if positive then run subject call forward no [s] else run subject call forward yes [s])
  | forward, .call key, states =>
    match subject.pattern.groupNumber? key with
    | some number => call number forward states
    | none => []

/-- Calls of groups, nested up to a depth. -/
def called (subject : Subject) : Nat → Nat → Bool → List MatchState → List MatchState
  | 0, _, _, _ => []
  | depth + 1, number, forward, states =>
    let body? := if number = 0 then some subject.pattern.root
      else Node.groupBody? number subject.pattern.root
    match body? with
    | some body => run subject (called subject depth) forward body states
    | none => []

end Subject

end EnrollmentDiagnosis.Pattern

namespace EnrollmentDiagnosis

/-- True when the pattern matches somewhere in the text. -/
def Pattern.occursIn (p : Pattern) (text : String) : Bool :=
  let chars := text.toList.toArray
  let subject : Pattern.Subject := ⟨p, chars, p.root.keys.filterMap p.groupNumber?⟩
  let starts := (List.range (chars.size + 1)).map fun position =>
    (⟨position, List.replicate (p.groupCount + 1) none⟩ : Pattern.MatchState)
  !(subject.run (subject.called (chars.size + p.groupCount + 2)) true p.root starts).isEmpty

end EnrollmentDiagnosis
