import EnrollmentDiagnosis.Pattern.Syntax

set_option autoImplicit false

namespace EnrollmentDiagnosis.Pattern

/-- Ways of matching that a pattern can switch on. -/
inductive Flag where
  | ascii
  | ignoreCase
  | multiline
  | dotAll
  | verbose
  | unicode
  | fullCase
  | word
  | bestMatch
  | enhance
  | leftmostLongest
  | reverse
  | version0
  | version1
  deriving DecidableEq, Inhabited

namespace Flag

/-- Flags that hold for a whole pattern wherever they stand, and cannot be switched off. -/
def isGlobal : Flag → Bool
  | bestMatch | enhance | leftmostLongest | reverse | version0 | version1 => true
  | _ => false

def ofLetter? : Char → Option Flag
  | 'a' => some ascii
  | 'b' => some bestMatch
  | 'e' => some enhance
  | 'f' => some fullCase
  | 'i' => some ignoreCase
  | 'm' => some multiline
  | 'p' => some leftmostLongest
  | 'r' => some reverse
  | 's' => some dotAll
  | 'u' => some unicode
  | 'w' => some word
  | 'x' => some verbose
  | _ => none

/-- The complaint about flags that exclude each other. -/
def clash? (flags : List Flag) : Option String :=
  if flags.contains version0 && flags.contains version1 then
    some "VERSION0 and VERSION1 flags are mutually incompatible"
  else if flags.contains ascii && flags.contains unicode then
    some "ASCII, LOCALE and UNICODE flags are mutually incompatible"
  else none

end Flag

structure Cursor where
  rest : List Char
  flags : List Flag
  /-- The flags of the whole pattern. -/
  globalFlags : List Flag
  /-- True where blanks and comments have no meaning. -/
  skipsBlanks : Bool
  groupCount : Nat
  names : List (String × Nat)
  openGroups : List Nat

/-- Why the reading of a pattern ends early. -/
inductive Stop where
  | invalid
  /-- The pattern must be read again under these flags. -/
  | flags (all : List Flag)

abbrev PatternReader := StateT Cursor (Except Stop)

namespace PatternReader

def invalid {α : Type} : PatternReader α := throw .invalid

/-- Drops blanks, and comments from a number sign to the end of its line. -/
def dropIgnored : Bool → List Char → List Char
  | _, [] => []
  | inComment, c :: rest =>
    if inComment then dropIgnored (c != '\n') rest
    else if c = '#' then dropIgnored true rest
    else if Text.isBlank c then dropIgnored false rest
    else c :: rest

/-- The text from the next character that has a meaning. -/
def upcoming : PatternReader (List Char) := do
  let cursor ← get
  return if cursor.skipsBlanks then dropIgnored false cursor.rest else cursor.rest

def moveTo (rest : List Char) : PatternReader Unit :=
  modify fun cursor => { cursor with rest := rest }

/-- The next character, if there is one. -/
def next? : PatternReader (Option Char) := do
  match ← upcoming with
  | [] => moveTo []; return none
  | c :: rest => moveTo rest; return some c

/-- The next character, which may be a blank. -/
def nextPlain? : PatternReader (Option Char) := do
  match (← get).rest with
  | [] => return none
  | c :: rest => moveTo rest; return some c

/-- Reads a character if it comes next. -/
def accept (c : Char) : PatternReader Bool := do
  match ← upcoming with
  | d :: rest => if d = c then moveTo rest; return true else return false
  | [] => return false

def expect (c : Char) : PatternReader Unit := do
  unless ← accept c do invalid

/-- The characters at the start of a text that satisfy the test, and the rest behind them. -/
def span (skips : Bool) (test : Char → Bool) : Nat → List Char → List Char × List Char
  | 0, s => ([], s)
  | fuel + 1, s =>
    match if skips then dropIgnored false s else s with
    | [] => ([], [])
    | c :: rest =>
      if test c then
        let (taken, left) := span skips test fuel rest
        (c :: taken, left)
      else ([], s)

def takeWhile (test : Char → Bool) : PatternReader (List Char) := do
  let cursor ← get
  let (taken, left) := span cursor.skipsBlanks test (cursor.rest.length + 1) cursor.rest
  moveTo left
  return taken

def hasFlag (flag : Flag) : PatternReader Bool := return (← get).flags.contains flag

/-- Reads a part under other flags. -/
def withFlags {α : Type} (flags : List Flag) (part : PatternReader α) : PatternReader α := do
  let saved := (← get).flags
  modify fun cursor => { cursor with flags := flags, skipsBlanks := flags.contains .verbose }
  let a ← part
  modify fun cursor => { cursor with flags := saved, skipsBlanks := saved.contains .verbose }
  return a

/-- Reads a part in which blanks count. -/
def withBlanks {α : Type} (part : PatternReader α) : PatternReader α := do
  let saved := (← get).skipsBlanks
  modify fun cursor => { cursor with skipsBlanks := false }
  let a ← part
  modify fun cursor => { cursor with skipsBlanks := saved }
  return a

/-- Reads a part, or nothing of it if that fails. -/
def attempt {α : Type} (part : PatternReader α) : PatternReader (Option α) := do
  let saved ← get
  match part.run saved with
  | .ok (a, cursor) => set cursor; return some a
  | .error .invalid => return none
  | .error stop => throw stop

/-- The lowest number above `n` that no named group has. -/
def freshNumber (names : List (String × Nat)) : Nat → Nat → Nat
  | n, 0 => n + 1
  | n, fuel + 1 => if names.any (·.2 == n + 1) then freshNumber names (n + 1) fuel else n + 1

/-- Opens a group. Groups of one name share their number, and a new name takes a number that no
other name has. -/
def openGroup (name : Option String) : PatternReader Nat := do
  let cursor ← get
  let known := name.bind fun s => List.lookup s cursor.names
  let number := match known, name with
    | some n, _ => n
    | none, none => cursor.groupCount + 1
    | none, some _ => freshNumber cursor.names cursor.groupCount cursor.names.length
  let names := match known, name with
    | none, some s => cursor.names ++ [(s, number)]
    | _, _ => cursor.names
  set { cursor with
    groupCount := if known.isSome then cursor.groupCount else number
    openGroups := number :: cursor.openGroups
    names := names }
  return number

def closeGroup : PatternReader Unit :=
  modify fun cursor => { cursor with openGroups := cursor.openGroups.tail }

/-- True inside the group itself. -/
def isOpen (key : GroupKey) : PatternReader Bool := do
  let cursor ← get
  let number := match key with
    | .number n => some n
    | .name s => cursor.names.lookup s
  return match number with
    | some n => cursor.openGroups.contains n
    | none => false

end PatternReader

end EnrollmentDiagnosis.Pattern
