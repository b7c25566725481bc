import EnrollmentDiagnosis.Pattern.Cursor
import EnrollmentDiagnosis.Text.Digit

set_option autoImplicit false

namespace EnrollmentDiagnosis.Pattern

/-- The meaning of an escape. -/
inductive Escape where
  | character (code : Nat)
  | item (item : SetItem)
  | node (node : Node)
  deriving Inhabited

namespace PatternReader

/-- A pattern for one character of a set, under the flags in force. -/
def oneOf (items : List SetItem) (negated : Bool) : PatternReader Node := do
  return .one ⟨items, negated, ← hasFlag .ignoreCase⟩

def literal (code : Nat) : PatternReader Node := oneOf [.range code code] false

/-- The value of a hexadecimal digit. -/
def hexDigit? (c : Char) : Option Nat :=
  if c.isDigit then some (c.toNat - 48)
  else if 'a' ≤ c ∧ c ≤ 'f' then some (c.toNat - 87)
  else if 'A' ≤ c ∧ c ≤ 'F' then some (c.toNat - 55)
  else none

def octalDigit? (c : Char) : Option Nat := if '0' ≤ c ∧ c ≤ '7' then some (c.toNat - 48) else none

/-- A code point of exactly the given number of hexadecimal digits. -/
def hexCode : Nat → Nat → PatternReader Nat
  | 0, value => if value < 0x110000 then return value else invalid
  | count + 1, value => do
    match (← next?).bind hexDigit? with
    | some d => hexCode count (value * 16 + d)
    | none => invalid

/-- Up to `count` more octal digits. -/
def octalCode : Nat → Nat → PatternReader Nat
  | 0, value => return value
  | count + 1, value => do
    match ← upcoming with
    | c :: rest =>
      match octalDigit? c with
      | some d => moveTo rest; octalCode count (value * 8 + d)
      | none => return value
    | [] => return value

/-- True for names of letters, digits, marks and connectors that do not start with a digit or
mark. -/
def isGroupName (name : List Char) : Bool :=
  let starts (c : Char) :=
    let category := categoryOf c.toNat
    CategoryGroup.letter.holds category || category == .nl || c == '_'
  let continues (c : Char) :=
    let category := categoryOf c.toNat
    starts c || [Category.mn, .mc, .nd, .pc].contains category
  match name with
  | [] => false
  | c :: rest => starts c && rest.all continues

def decimalOf (digits : List Char) : Nat := Text.digitsValue (digits.filterMap Text.asciiDigit?)

/-- The name of a group, or its number where numbers may stand. -/
def groupKey (allowNumber : Bool) : PatternReader GroupKey := do
  let name ← takeWhile fun c => c != ')' && c != '>'
  if !name.isEmpty && name.all Char.isDigit then
    let number := decimalOf name
    if allowNumber && number != 0 then return .number number else invalid
  else if isGroupName name then return .name (String.ofList name)
  else invalid

/-- A reference to a group that is closed. -/
def closedReference (key : GroupKey) : PatternReader Node := do
  if ← isOpen key then invalid
  return .reference key (← hasFlag .ignoreCase)

/-- The reference in `\g<name>`. -/
def bracketReference : PatternReader Node := do
  expect '<'
  let key ← groupKey true
  expect '>'
  closedReference key

/-- The number behind a backslash: up to three octal digits for a character, otherwise one or two
digits for a group. -/
def numericEscape (first : Char) : PatternReader Escape := do
  match ← upcoming with
  | second :: rest =>
    if second.isDigit then
      moveTo rest
      match (octalDigit? first), (octalDigit? second), ← upcoming with
      | some a, some b, third :: rest =>
        match octalDigit? third with
        | some c =>
          moveTo rest
          return .character ((a * 64 + b * 8 + c) % 512)
        | none => return .node (← closedReference (.number (decimalOf [first, second])))
      | _, _, _ => return .node (← closedReference (.number (decimalOf [first, second])))
    else return .node (← closedReference (.number (decimalOf [first])))
  | [] => return .node (← closedReference (.number (decimalOf [first])))

/-- Characters of the names of properties. -/
def isNamePart (c : Char) : Bool := c.isAlphanum || [' ', '&', '_', '-', '.'].contains c

/-- A property's name, with the name of its kind where that is given. -/
def propertyName : PatternReader (Option (List Char) × List Char) := do
  let name ← takeWhile isNamePart
  let saved ← get
  match ← next? with
  | some c =>
    if c = ':' ∨ c = '=' then
      let value ← takeWhile fun c => isNamePart c || c == '/'
      let value := Text.trimmed Text.isBlank value
      if value.isEmpty then
        set saved
        return (none, name)
      else return (some name, value)
    else
      set saved
      return (none, name)
  | none =>
    set saved
    return (none, name)

/-- The named property. Names of four classes mean the ASCII variant in brackets of their own. -/
def namedProperty (inClass : Bool) (kind : Option (List Char)) (name : List Char) :
    PatternReader Property := do
  let value := Property.standardName name
  let value :=
    if inClass && ["ALNUM", "DIGIT", "PUNCT", "XDIGIT"].contains value then "POSIX" ++ value
    else value
  let found := match kind with
    | some kind =>
      if kind.isEmpty then Property.ofName? value
      else Property.ofQualifiedName? (Property.standardName kind) value
    | none => Property.ofName? value
  match found with
  | some p => return p
  | none => invalid

/-- The property behind `\p` or `\P`, or the letter itself where no property follows. -/
def propertyEscape (positive : Bool) : PatternReader Escape := do
  let saved ← get
  let asLetter : PatternReader Escape := do
    set saved
    return .character (if positive then 'p' else 'P').toNat
  match ← next? with
  | some '\x7b' =>
    let negated ← accept '^'
    let (kind, name) ← propertyName
    if ← accept '\x7d' then
      return .item (.property (← namedProperty false kind name) (positive != negated))
    else asLetter
  | some c =>
    if ['C', 'L', 'M', 'N', 'P', 'S', 'Z'].contains c then
      return .item (.property (← namedProperty false none [c]) positive)
    else asLetter
  | none => asLetter

/-- The set that a letter behind a backslash stands for. -/
def classEscape? (ascii : Bool) : Char → Option SetItem
  | 'd' => some (.property (if ascii then .asciiDigit else .category .nd) true)
  | 'D' => some (.property (if ascii then .asciiDigit else .category .nd) false)
  | 'h' => some (.property .blank true)
  | 's' => some (.property (if ascii then .asciiSpace else .whiteSpace) true)
  | 'S' => some (.property (if ascii then .asciiSpace else .whiteSpace) false)
  | 'w' => some (.property (if ascii then .asciiWord else .word) true)
  | 'W' => some (.property (if ascii then .asciiWord else .word) false)
  | _ => none

/-- The control character that a letter behind a backslash stands for. -/
def controlEscape? : Char → Option Nat
  | 'a' => some 7
  | 'b' => some 8
  | 'f' => some 12
  | 'n' => some 10
  | 'r' => some 13
  | 't' => some 9
  | 'v' => some 11
  | _ => none

/-- The assertion that a letter behind a backslash stands for. -/
def positionEscape? : Char → Option Node
  | 'A' => some (.assertion .textStart)
  | 'b' => some (.assertion .wordBoundary)
  | 'B' => some (.assertion .noWordBoundary)
  | 'G' => some (.assertion .textStart)
  | 'K' => some .empty
  | 'm' => some (.assertion .wordStart)
  | 'M' => some (.assertion .wordEnd)
  | 'Z' => some (.assertion .textEnd)
  | _ => none

def character (code : Nat) : Node := .one ⟨[.range code code], false, false⟩

/-- A carriage return with its line feed counts as one. -/
def returnAndFeed : Node := .sequence (character 13) (character 10)

/-- A line ending. -/
def lineEnding : Node :=
  .atomic (.choice returnAndFeed
    (.one ⟨[.range 10 13, .range 0x85 0x85, .range 0x2028 0x2029], false, false⟩))

/-- A character with the marks that join it. -/
def grapheme : Node :=
  .atomic (.choice returnAndFeed (.sequence (.one ⟨[.property .any true], false, false⟩)
    (.repeated false 0 none
      (.one ⟨[.property (.group .mark) true, .range 0x200D 0x200D], false, false⟩))))

/-- What a letter behind a backslash stands for. -/
def letterEscape (inSet : Bool) (c : Char) : PatternReader Escape := do
  if c = 'x' then return .character (← hexCode 2 0)
  else if c = 'u' then return .character (← hexCode 4 0)
  else if c = 'U' then return .character (← hexCode 8 0)
  else if c = 'N' then
    if ← accept '\x7b' then invalid else return .character 'N'.toNat
  else if c = 'p' then propertyEscape true
  else if c = 'P' then propertyEscape false
  else
    let position : Option Node := if inSet then none else positionEscape? c
    let item := classEscape? (← hasFlag .ascii) c
    match position, item, controlEscape? c with
    | some node, _, _ => return .node node
    | none, some item, _ => return .item item
    | none, none, some code => return .node (character code)
    | none, none, none =>
      if inSet then invalid
      else if c = 'R' then return .node lineEnding
      else if c = 'X' then return .node grapheme
      else if c = 'g' then
        match ← attempt bracketReference with
        | some node => return .node node
        | none => return .character 'g'.toNat
      else invalid

/-- An escape, read from behind its backslash. -/
def escape (inSet : Bool) : PatternReader Escape := do
  match ← nextPlain? with
  | none => invalid
  | some c =>
    if c.isAlpha then
      match inSet, controlEscape? c with
      | true, some code => return .character code
      | _, _ => letterEscape inSet c
    else if c.isDigit then
      if c = '0' then return .character (← octalCode 2 0)
      else if inSet then
        match octalDigit? c with
        | some d => return .character (← octalCode 2 d)
        | none => invalid
      else numericEscape c
    else return .character c.toNat

/-- A class such as `[:alpha:]`, read from behind its first bracket and colon. -/
def namedClass : PatternReader (Option SetItem) := do
  let negated ← accept '^'
  let (kind, name) ← propertyName
  if ← accept ':' then
    if ← accept ']' then return some (.property (← namedProperty true kind name) !negated)
  return none

/-- One member of a set: a character, or an item that cannot start a range. -/
def setMember : PatternReader (Nat ⊕ SetItem) := do
  let escaped : PatternReader (Nat ⊕ SetItem) := do
    match ← escape true with
    | .character code => return .inl code
    | .item item => return .inr item
    | .node _ => invalid
  match (← get).rest with
  | [] => invalid
  | '\\' :: rest => moveTo rest; escaped
  | '[' :: ':' :: rest =>
    let saved ← get
    moveTo rest
    match ← namedClass with
    | some item => return .inr item
    | none =>
      set saved
      moveTo (':' :: rest)
      return .inl '['.toNat
  | c :: rest => moveTo rest; return .inl c.toNat

/-- The items at one place of a set: a range, or what stands there. -/
def setRange : PatternReader (List SetItem) := do
  let single (code : Nat) : SetItem := .range code code
  match ← setMember with
  | .inr item => return [item]
  | .inl first =>
    match (← get).rest with
    | '-' :: ']' :: _ =>
      moveTo ((← get).rest.drop 1)
      return [single first, single '-'.toNat]
    | '-' :: rest =>
      moveTo rest
      match ← setMember with
      | .inr item => return [single first, single '-'.toNat, item]
      | .inl last => if last < first then invalid else return [.range first last]
    | _ => return [single first]

/-- The items of a set up to its closing bracket. -/
def setItems : Nat → PatternReader (List SetItem)
  | 0 => invalid
  | fuel + 1 => do
    let items ← setRange
    match (← get).rest with
    | ']' :: rest => moveTo rest; return items
    | [] => invalid
    | _ => return items ++ (← setItems fuel)

/-- A set, read from behind its opening bracket. A closing bracket at its start is a member. -/
def charSet : PatternReader Node := withBlanks do
  let negated ← accept '^'
  let items ← setItems ((← get).rest.length + 1)
  oneOf items negated

end PatternReader

end EnrollmentDiagnosis.Pattern
