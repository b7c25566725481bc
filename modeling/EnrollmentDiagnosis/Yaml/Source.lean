import EnrollmentDiagnosis.Yaml.Token

set_option autoImplicit false

namespace EnrollmentDiagnosis.Yaml

/-- Stands for the end of the text, in which it does not occur. -/
def endMark : Char := '\x00'

def isBreak (c : Char) : Bool := ['\n', '\r', '\x85', '\u2028', '\u2029'].contains c

def isBreakOrEnd (c : Char) : Bool := c == endMark || isBreak c

def isSpaceBreakOrEnd (c : Char) : Bool := c == ' ' || isBreakOrEnd c

/-- True for what separates words: spaces, tabs, line breaks and the end. -/
def isGap (c : Char) : Bool := c == '\t' || isSpaceBreakOrEnd c

/-- Letters, digits, hyphens and underscores. -/
def isWordChar (c : Char) : Bool := c.isAlphanum || c == '-' || c == '_'

/-- The characters that a document may contain. -/
def isAllowed (c : Char) : Bool :=
  let n := c.toNat
  n == 0x9 || n == 0xA || n == 0xD || (0x20 ≤ n && n ≤ 0x7E) || n == 0x85 ||
    (0xA0 ≤ n && n ≤ 0xD7FF) || (0xE000 ≤ n && n ≤ 0xFFFD) || 0x10000 ≤ n

/-- A place where a key may have started. -/
structure SimpleKey where
  tokenNumber : Nat
  required : Bool
  index : Nat
  line : Nat
  column : Nat
  deriving DecidableEq, Inhabited

structure Source where
  rest : List Char
  index : Nat
  line : Nat
  column : Nat
  tokens : Array Token
  /-- The number of flow collections around this place. -/
  flowLevel : Nat
  /-- The column of the innermost block collection, and those around it. -/
  indent : Int
  indents : List Int
  allowsKey : Bool
  /-- Possible keys by flow level. -/
  keys : List (Nat × SimpleKey)
  deriving Inhabited

/-- A step over the text of a document. -/
abbrev Scan := StateT Source (Except SyntaxError)

namespace Source

def ofText (text : List Char) : Source := ⟨text, 0, 0, 0, #[], 0, -1, [], true, []⟩

/-- The place behind the next character. -/
def advanced (s : Source) : Source :=
  match s.rest with
  | [] => s
  | c :: rest =>
    let breaks := isBreak c && (c != '\r' || rest.head? != some '\n')
    { s with
      rest := rest
      index := s.index + 1
      line := if breaks then s.line + 1 else s.line
      column := if breaks then 0 else if c = '\uFEFF' then s.column else s.column + 1 }

end Source

namespace Scan

def malformed {α : Type} : Scan α := throw .malformed

/-- The character at a distance. -/
def peekAt (n : Nat) : Scan Char := return (← get).rest.getD n endMark

def peek : Scan Char := peekAt 0

def forward : Nat → Scan Unit
  | 0 => return ()
  | n + 1 => do
    modify Source.advanced
    forward n

/-- Takes the characters that satisfy a test, which must not hold of the end. -/
def takeWhile (test : Char → Bool) : Scan (List Char) := do
  let taken := (← get).rest.takeWhile test
  forward taken.length
  return taken

def skipSpaces : Scan Unit := do
  let _ ← takeWhile (· == ' ')

/-- Skips a comment up to the end of its line. -/
def skipComment : Scan Unit := do
  if (← peek) == '#' then
    let _ ← takeWhile fun c => !isBreakOrEnd c

/-- Reads a line break, if there is one: most of them stand for a line feed. -/
def lineBreak? : Scan (Option Char) := do
  let c ← peek
  if c == '\r' && (← peekAt 1) == '\n' then
    forward 2
    return some '\n'
  else if c == '\n' || c == '\r' || c == '\x85' then
    forward 1
    return some '\n'
  else if c == '\u2028' || c == '\u2029' then
    forward 1
    return some c
  else return none

/-- True at a mark of three characters that separates documents. -/
def atSeparator : Scan Bool := do
  let rest := (← get).rest
  let three := rest.take 3
  return (three == ['-', '-', '-'] || three == ['.', '.', '.']) && isGap (rest.getD 3 endMark)

/-- Skips spaces and a comment, and the line break behind them. -/
def finishLine : Scan Unit := do
  skipSpaces
  skipComment
  if isBreakOrEnd (← peek) then
    let _ ← lineBreak?
  else malformed

def push (token : Token) : Scan Unit := modify fun s => { s with tokens := s.tokens.push token }

/-- Inserts a token before the one with a number. -/
def insertAt (n : Nat) (token : Token) : Scan Unit :=
  modify fun s => { s with
    tokens := (s.tokens.extract 0 n).push token ++ s.tokens.extract n s.tokens.size }

end Scan

end EnrollmentDiagnosis.Yaml
