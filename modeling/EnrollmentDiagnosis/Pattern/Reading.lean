import EnrollmentDiagnosis.Pattern.Escape

set_option autoImplicit false

namespace EnrollmentDiagnosis.Pattern

namespace PatternReader

/-- The largest number of repetitions. -/
def maxRepeats : Nat := 4294967294

/-- The bounds in braces, read from behind the opening brace; none where no bounds stand there. -/
def bounds? : PatternReader (Option (Nat × Option Nat)) := do
  let saved ← get
  let nothing : PatternReader (Option (Nat × Option Nat)) := do
    set saved
    return none
  let least ← takeWhile Char.isDigit
  let ranged ← accept ','
  let most ← if ranged then takeWhile Char.isDigit else pure least
  if !ranged && least.isEmpty then nothing
  else if !(← accept '\x7d') then nothing
  else
    let low := decimalOf least
    let high := if most.isEmpty then none else some (decimalOf most)
    let tooMany := match high with
      | some n => decide (maxRepeats < n) || decide (n < low)
      | none => false
    if decide (maxRepeats < low) || tooMany then invalid
    return some (low, high)

/-- The bounds that a character starts; none where it stands for itself. -/
def quantifier? (c : Char) : PatternReader (Option (Nat × Option Nat)) := do
  if c = '*' then return some (0, none)
  else if c = '+' then return some (1, none)
  else if c = '?' then return some (0, some 1)
  else bounds?

/-- A repeated pattern. The mark behind the bounds asks for as few repetitions as possible, or for
the first way only. -/
def repeated (body : Node) (least : Nat) (most : Option Nat) : PatternReader Node := do
  let asFew ← accept '?'
  let once ← if asFew then pure false else accept '+'
  if body.isEmpty || (least == 1 && most == some 1) then return body
  else if once then return .atomic (.repeated false least most body)
  else return .repeated asFew least most body

/-- Braces that would ask for approximate matching, which is not supported. -/
def asksForErrors : List Char → Bool
  | c :: _ => ['d', 'e', 'i', 's'].contains c
  | [] => false

/-- A comment, read up to its closing parenthesis. A backslash hides the character behind it. -/
def comment : Nat → PatternReader Unit
  | 0 => invalid
  | fuel + 1 => do
    match ← nextPlain? with
    | none => invalid
    | some c =>
      if c = ')' then return ()
      else if c = '\\' then
        let _ ← nextPlain?
        comment fuel
      else comment fuel

/-- The flags that a run of letters names. -/
def flagLetters : Nat → PatternReader (List Flag)
  | 0 => return []
  | fuel + 1 => do
    let saved ← get
    let flag ← match ← next? with
      | some 'V' => do
        match ← next? with
        | some '0' => pure (some Flag.version0)
        | some '1' => pure (some Flag.version1)
        | _ => pure none
      | some c => pure (Flag.ofLetter? c)
      | none => pure none
    match flag with
    | some flag => return flag :: (← flagLetters fuel)
    | none =>
      set saved
      return []

/-- Asks for another reading of the whole pattern if it has flags that are not in force yet. -/
def demand (flags : List Flag) : PatternReader Unit := do
  let cursor ← get
  let more := flags.filter fun flag => !cursor.globalFlags.contains flag
  unless more.isEmpty do throw (.flags (cursor.globalFlags ++ more.eraseDups))

/-- The number of a called group, relative to the groups so far. -/
def relativeGroup (forward : Bool) : PatternReader GroupKey := do
  let digits ← takeWhile Char.isDigit
  if digits.isEmpty then invalid
  let offset := decimalOf digits
  let count := (← get).groupCount
  if !forward && decide (count + 1 ≤ offset) then invalid
  return .number (if forward then count + offset else count + 1 - offset)

/-- A condition's group. The name `DEFINE` never matches. -/
def conditionKey : PatternReader GroupKey := groupKey true

mutual

/-- Patterns with bars between them. -/
def alternatives : Nat → PatternReader Node
  | 0 => invalid
  | fuel + 1 => do return Node.ofChoices (← branches fuel)

def branches : Nat → PatternReader (List Node)
  | 0 => invalid
  | fuel + 1 => do
    let first ← sequence fuel
    if ← accept '|' then return first :: (← branches fuel)
    else return [first]

/-- The branches whose groups all have the same numbers. -/
def sharedBranches : Nat → Nat → Nat → PatternReader (List Node)
  | 0, _, _ => invalid
  | fuel + 1, initial, final => do
    let first ← sequence fuel
    let final := max final (← get).groupCount
    if ← accept '|' then
      modify fun cursor => { cursor with groupCount := initial }
      return first :: (← sharedBranches fuel initial final)
    else
      modify fun cursor => { cursor with groupCount := final }
      return [first]

def sequence : Nat → PatternReader Node
  | 0 => invalid
  | fuel + 1 => do
    let parts ← elements fuel [] none
    return Node.ofSequence (parts.filter fun part => !part.isEmpty)

/-- The elements up to a bar, a closing parenthesis or the end. The last element is kept apart, for
a quantifier may follow it. -/
def elements : Nat → List Node → Option Node → PatternReader (List Node)
  | 0, _, _ => invalid
  | fuel + 1, done, last => do
    let done' := last.toList ++ done
    match ← upcoming with
    | [] => return done'.reverse
    | c :: rest =>
      if c = '|' ∨ c = ')' then return done'.reverse
      else
        moveTo rest
        if c = '\\' then
          let element ← match ← escape false with
            | .character code => literal code
            | .item item => oneOf [item] false
            | .node node => pure node
          elements fuel done' (some element)
        else if c = '(' then
          match ← parenthesis fuel with
          | some element => elements fuel done' (some element)
          | none => elements fuel done last
        else if c = '[' then elements fuel done' (some (← charSet))
        else if c = '.' then
          let element : Node :=
            if ← hasFlag .dotAll then .one ⟨[.property .any true], false, false⟩
            else .one ⟨[.range 10 10], true, false⟩
          elements fuel done' (some element)
        else if c = '^' then
          let isLine ← hasFlag .multiline
          elements fuel done' (some (.assertion (if isLine then .lineStart else .textStart)))
        else if c = '$' then
          let isLine ← hasFlag .multiline
          elements fuel done' (some (.assertion (if isLine then .lineEnd else .lastLineEnd)))
        else if ['?', '*', '+', '\x7b'].contains c then
          match ← quantifier? c with
          | some (least, most) =>
            match last with
            | none => invalid
            | some body => elements fuel ((← repeated body least most) :: done) none
          | none =>
            if asksForErrors (← upcoming) then invalid
            elements fuel done' (some (← literal c.toNat))
        else elements fuel done' (some (← literal c.toNat))

/-- A part under its own flags, with the parenthesis that closes it. -/
def enclosed : Nat → List Flag → PatternReader Node
  | 0, _ => invalid
  | fuel + 1, flags => withFlags flags do
    let body ← alternatives fuel
    expect ')'
    return body

/-- A group that is recorded, read from behind its opening. -/
def recorded : Nat → Option String → PatternReader Node
  | 0, _ => invalid
  | fuel + 1, name => do
    let number ← openGroup name
    if name.isSome then expect '>'
    let body ← enclosed fuel (← get).flags
    closeGroup
    return .group number body

def named : Nat → PatternReader Node
  | 0 => invalid
  | fuel + 1 => do
    match ← groupKey false with
    | .name s => recorded fuel (some s)
    | .number _ => invalid

/-- One of two branches behind a condition. -/
def conditioned : Nat → (Node → Node → Node) → PatternReader Node
  | 0, _ => invalid
  | fuel + 1, make => do
    let yes ← sequence fuel
    let no ← if ← accept '|' then sequence fuel else pure Node.empty
    expect ')'
    return if yes.isEmpty && no.isEmpty then .empty else make yes no

/-- What stands behind an opening parenthesis; comments and flags leave nothing. -/
def parenthesis : Nat → PatternReader (Option Node)
  | 0 => invalid
  | fuel + 1 => do
    let flags := (← get).flags
    let keep (node : PatternReader Node) : PatternReader (Option Node) := return some (← node)
    match (← get).rest with
    | '?' :: '<' :: '=' :: rest =>
      moveTo rest
      keep (return .look false true (← enclosed fuel flags))
    | '?' :: '<' :: '!' :: rest =>
      moveTo rest
      keep (return .look false false (← enclosed fuel flags))
    | '?' :: '<' :: rest => moveTo rest; keep (named fuel)
    | '?' :: '=' :: rest => moveTo rest; keep (return .look true true (← enclosed fuel flags))
    | '?' :: '!' :: rest => moveTo rest; keep (return .look true false (← enclosed fuel flags))
    | '?' :: 'P' :: '<' :: rest => moveTo rest; keep (named fuel)
    | '?' :: 'P' :: '=' :: rest =>
      moveTo rest
      let key ← groupKey true
      expect ')'
      keep (closedReference key)
    | '?' :: 'P' :: '>' :: rest | '?' :: 'P' :: '&' :: rest | '?' :: '&' :: rest =>
      moveTo rest
      let key ← groupKey false
      expect ')'
      return some (.call key)
    | '?' :: 'P' :: _ => invalid
    | '?' :: '#' :: rest =>
      moveTo rest
      comment (rest.length + 1)
      return none
    | '?' :: '(' :: '?' :: '=' :: rest => moveTo rest; conditionalLook fuel true true
    | '?' :: '(' :: '?' :: '!' :: rest => moveTo rest; conditionalLook fuel true false
    | '?' :: '(' :: '?' :: '<' :: '=' :: rest => moveTo rest; conditionalLook fuel false true
    | '?' :: '(' :: '?' :: '<' :: '!' :: rest => moveTo rest; conditionalLook fuel false false
    | '?' :: '(' :: rest =>
      moveTo rest
      let key ← conditionKey
      expect ')'
      keep (withFlags flags (conditioned fuel (.given key)))
    | '?' :: '>' :: rest => moveTo rest; keep (return .atomic (← enclosed fuel flags))
    | '?' :: '|' :: rest =>
      moveTo rest
      let initial := (← get).groupCount
      let parts ← withFlags flags (sharedBranches fuel initial initial)
      expect ')'
      return some (Node.ofChoices parts)
    | '?' :: 'R' :: rest =>
      moveTo rest
      expect ')'
      return some (.call (.number 0))
    | '?' :: '+' :: c :: rest | '?' :: '-' :: c :: rest =>
      let forward := (← get).rest.getD 1 ' ' == '+'
      if c.isDigit then
        moveTo (c :: rest)
        let key ← relativeGroup forward
        expect ')'
        return some (.call key)
      else
        moveTo ((← get).rest.drop 1)
        flagged fuel
    | '?' :: c :: rest =>
      if c.isDigit then
        moveTo (c :: rest)
        let digits ← takeWhile Char.isDigit
        expect ')'
        return some (.call (.number (decimalOf digits)))
      else
        moveTo (c :: rest)
        flagged fuel
    | '*' :: 'F' :: ')' :: rest | '*' :: 'F' :: 'A' :: 'I' :: 'L' :: ')' :: rest =>
      moveTo rest
      return some .fail
    | _ => keep (recorded fuel none)

/-- A conditional on what stands ahead or behind. -/
def conditionalLook : Nat → Bool → Bool → PatternReader (Option Node)
  | 0, _, _ => invalid
  | fuel + 1, ahead, positive => do
    let flags := (← get).flags
    let test ← enclosed fuel flags
    return some (← withFlags flags (conditioned fuel (.lookGiven ahead positive test)))

/-- Flags, which hold for the whole pattern or for the part behind a colon. -/
def flagged : Nat → PatternReader (Option Node)
  | 0 => invalid
  | fuel + 1 => do
    let on ← flagLetters ((← get).rest.length + 1)
    let switchesOff ← accept '-'
    let off ← if switchesOff then flagLetters ((← get).rest.length + 1) else pure []
    if (switchesOff && off.isEmpty) || off.any Flag.isGlobal || on.any off.contains then invalid
    demand (on.filter Flag.isGlobal)
    let flags := (← get).flags
    if ← accept ':' then
      let inner := flags.filter (fun flag => !off.contains flag) ++ on
      return some (← enclosed fuel inner)
    else if ← accept ')' then
      unless off.isEmpty do invalid
      demand on
      return none
    else invalid

end

end PatternReader

/-- The start of a text, under flags for the whole pattern. -/
def Cursor.ofText (text : List Char) (flags : List Flag) : Cursor :=
  ⟨text, flags, flags, flags.contains .verbose, 0, [], []⟩

/-- True when every group that a pattern asks for exists. -/
def isClosed (p : Pattern) : Bool :=
  p.root.keys.all fun key => (p.groupNumber? key).isSome || key == .name "DEFINE"

/-- Why a text is not read as a pattern. -/
inductive Refusal where
  | invalid
  /-- Flags for the whole pattern exclude each other. -/
  | clash (message : String)
  deriving DecidableEq

/-- Reads a pattern, again and again while it turns out to hold more flags. Whether its flags
exclude each other is asked only of a text that could be read to its end. -/
def readUnder (text : List Char) : Nat → List Flag → Except Refusal Pattern
  | 0, _ => .error .invalid
  | more + 1, flags =>
    match (PatternReader.alternatives (4 * text.length + 16)).run (Cursor.ofText text flags) with
    | .error (.flags all) => readUnder text more all
    | .error .invalid => .error .invalid
    | .ok (root, cursor) =>
      let p : Pattern := ⟨root, cursor.groupCount, cursor.names⟩
      if !cursor.rest.isEmpty then .error .invalid
      else match Flag.clash? flags with
        | some message => .error (.clash message)
        | none => if isClosed p then .ok p else .error .invalid

end EnrollmentDiagnosis.Pattern

namespace EnrollmentDiagnosis

/-- The pattern of a text, where case makes no difference. -/
def Pattern.ofText (text : String) : Except Pattern.Refusal Pattern :=
  Pattern.readUnder text.toList 16 [.ignoreCase]

end EnrollmentDiagnosis
