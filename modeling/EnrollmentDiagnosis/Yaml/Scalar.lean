import EnrollmentDiagnosis.Yaml.Source

set_option autoImplicit false

namespace EnrollmentDiagnosis.Yaml.Scan

/-- The character that a letter behind a backslash stands for. -/
def replacement? : Char → Option Char
  | '0' => some '\x00'
  | 'a' => some '\x07'
  | 'b' => some '\x08'
  | 't' => some '\t'
  | '\t' => some '\t'
  | 'n' => some '\n'
  | 'v' => some '\x0b'
  | 'f' => some '\x0c'
  | 'r' => some '\r'
  | 'e' => some '\x1b'
  | ' ' => some ' '
  | '"' => some '"'
  | '\\' => some '\\'
  | '/' => some '/'
  | 'N' => some '\x85'
  | '_' => some '\xa0'
  | 'L' => some '\u2028'
  | 'P' => some '\u2029'
  | _ => none

/-- The number of hexadecimal digits behind a letter. -/
def escapeLength? : Char → Option Nat
  | 'x' => some 2
  | 'u' => some 4
  | 'U' => some 8
  | _ => none

def hexDigit? (c : Char) : Option Nat :=
  if c.isDigit then some (c.toNat - 48)
  else if 'a' ≤ c ∧ c ≤ 'f' then some (c.toNat - 87)
  else if 'A' ≤ c ∧ c ≤ 'F' then some (c.toNat - 55)
  else none

/-- The value of exactly so many hexadecimal digits at the start of a text. -/
def hexValue? (count : Nat) (s : List Char) : Option Nat :=
  let digits := (s.take count).filterMap hexDigit?
  if digits.length = count then some (digits.foldl (fun n d => n * 16 + d) 0) else none

def isHighSurrogate (code : Nat) : Bool := 0xD800 ≤ code && code ≤ 0xDBFF
def isLowSurrogate (code : Nat) : Bool := 0xDC00 ≤ code && code ≤ 0xDFFF

/-- The second half of a pair of surrogates, written as an escape at the start of a text. -/
def lowSurrogate? : List Char → Option Nat
  | '\\' :: 'u' :: rest => (hexValue? 4 rest).filter isLowSurrogate
  | _ => none

/-- The character with a number. Two escapes may form a pair of surrogates. -/
def codedChar (length : Nat) : Scan Char := do
  match hexValue? length (← get).rest with
  | none => malformed
  | some code =>
    if 0x110000 ≤ code then throw (.characterOutOfRange (decide (0x80000000 ≤ code)))
    forward length
    if isHighSurrogate code then
      match lowSurrogate? (← get).rest with
      | some low =>
        forward 6
        return Char.ofNat (0x10000 + (code - 0xD800) * 0x400 + (low - 0xDC00))
      | none => return '\uFFFD'
    else if isLowSurrogate code then return '\uFFFD'
    else return Char.ofNat code

/-- The breaks behind a line break inside quotes; the spaces around them are dropped. -/
def quotedBreaks : Nat → Scan (List Char)
  | 0 => malformed
  | fuel + 1 => do
    if ← atSeparator then malformed
    let _ ← takeWhile fun c => c == ' ' || c == '\t'
    match ← lineBreak? with
    | some c => return c :: (← quotedBreaks fuel)
    | none => return []

/-- The text that line breaks stand for where lines are joined: the first one alone is a space. -/
def joinedLines (first : Char) (more : List Char) : List Char :=
  if first ≠ '\n' then first :: more else if more.isEmpty then [' '] else more

/-- The text between quotes, up to the closing one. -/
def quotedText (double : Bool) : Nat → Scan (List Char)
  | 0 => malformed
  | fuel + 1 => do
    let plain ← takeWhile fun c => !isGap c && c != '\'' && c != '"' && c != '\\'
    let c ← peek
    if !double && c == '\'' then
      forward 1
      if (← peek) == '\'' then
        forward 1
        return plain ++ '\'' :: (← quotedText double fuel)
      else return plain
    else if double && c == '"' then
      forward 1
      return plain
    else if double && c == '\\' then
      forward 1
      let e ← peek
      match replacement? e, escapeLength? e with
      | some r, _ =>
        forward 1
        return plain ++ r :: (← quotedText double fuel)
      | none, some length =>
        forward 1
        let r ← codedChar length
        return plain ++ r :: (← quotedText double fuel)
      | none, none =>
        match ← lineBreak? with
        | none => malformed
        | some _ =>
          let breaks ← quotedBreaks fuel
          return plain ++ breaks ++ (← quotedText double fuel)
    else if c == '\'' || c == '"' || c == '\\' then
      forward 1
      return plain ++ c :: (← quotedText double fuel)
    else
      let blanks ← takeWhile fun c => c == ' ' || c == '\t'
      match ← lineBreak? with
      | some first =>
        let more ← quotedBreaks fuel
        return plain ++ joinedLines first more ++ (← quotedText double fuel)
      | none =>
        if (← peek) == endMark then malformed
        return plain ++ blanks ++ (← quotedText double fuel)

/-- A scalar in quotes. -/
def quotedScalar (double : Bool) : Scan Token := do
  forward 1
  let text ← quotedText double (2 * (← get).rest.length + 2)
  return .scalar (String.ofList text) false

/-- True where a plain scalar ends before a character and the one behind it. -/
def endsPlain (inFlow : Bool) (c next : Char) : Bool :=
  isGap c ||
    (c == ':' && (isGap next || (inFlow && [',', '[', ']', '\x7b', '\x7d'].contains next))) ||
    (inFlow && [',', '?', '[', ']', '\x7b', '\x7d'].contains c)

/-- The length of the part of a plain scalar at the start of a text. -/
def plainLength (inFlow : Bool) : List Char → Nat
  | [] => 0
  | c :: rest =>
    if endsPlain inFlow c (rest.headD endMark) then 0 else plainLength inFlow rest + 1

/-- The line breaks behind a first one in a plain scalar; none where a separator follows. -/
def plainBreaks : Nat → Scan (Option (List Char))
  | 0 => malformed
  | fuel + 1 => do
    if ← atSeparator then return none
    skipSpaces
    match ← lineBreak? with
    | some c =>
      match ← plainBreaks fuel with
      | some more => return some (c :: more)
      | none => return none
    | none => return some []

/-- The text between two parts of a plain scalar, empty where no part can follow. -/
def plainGap : Scan (List Char) := do
  let blanks ← takeWhile (· == ' ')
  match ← lineBreak? with
  | none => return blanks
  | some first =>
    modify fun s => { s with allowsKey := true }
    match ← plainBreaks ((← get).rest.length + 2) with
    | none => return []
    | some more => return joinedLines first more

/-- The parts of a plain scalar, where `gap` stands before the next one. -/
def plainText (indent : Int) : Nat → List Char → Scan (List Char)
  | 0, _ => malformed
  | fuel + 1, gap => do
    let s ← get
    let length := if s.rest.head? == some '#' then 0 else plainLength (s.flowLevel != 0) s.rest
    if length = 0 then return []
    let part := s.rest.take length
    modify fun s => { s with allowsKey := false }
    forward length
    let next ← plainGap
    let s ← get
    if next.isEmpty || s.rest.head? == some '#' ||
        (s.flowLevel == 0 && decide ((s.column : Int) < indent)) then
      return gap ++ part
    return gap ++ part ++ (← plainText indent fuel next)

/-- A plain scalar. -/
def plainScalar : Scan Token := do
  let s ← get
  let text ← plainText (s.indent + 1) (s.rest.length + 2) []
  return .scalar (String.ofList text) true

/-- What becomes of the line breaks at the end of a block scalar. -/
inductive Chomping where
  | clip
  | strip
  | keep
  deriving DecidableEq

def chomping? : Char → Option Chomping
  | '+' => some .keep
  | '-' => some .strip
  | _ => none

/-- The indentation that a header gives. -/
def increment? : Scan (Option Nat) := do
  let c ← peek
  if c.isDigit then
    if c == '0' then malformed
    forward 1
    return some (c.toNat - 48)
  else return none

/-- The header of a block scalar: chomping and indentation, in either order. -/
def blockHeader : Scan (Chomping × Option Nat) := do
  let (chomping, increment) ← match chomping? (← peek) with
    | some chomping => do
      forward 1
      pure (chomping, ← increment?)
    | none => do
      match ← increment? with
      | none => pure (Chomping.clip, none)
      | some n =>
        match chomping? (← peek) with
        | some chomping => do
          forward 1
          pure (chomping, some n)
        | none => pure (Chomping.clip, some n)
  if !isSpaceBreakOrEnd (← peek) then malformed
  return (chomping, increment)

/-- The empty lines before a block scalar, and the largest column that their spaces reach. -/
def blockIndentation : Nat → Nat → Scan (List Char × Nat)
  | 0, _ => malformed
  | fuel + 1, deepest => do
    match ← lineBreak? with
    | some c =>
      let (more, deepest) ← blockIndentation fuel deepest
      return (c :: more, deepest)
    | none =>
      if (← peek) == ' ' then
        forward 1
        blockIndentation fuel (max deepest (← get).column)
      else return ([], deepest)

/-- Skips spaces up to a column. -/
def skipIndent (indent : Nat) : Scan Unit := do
  let s ← get
  forward ((s.rest.take (indent - s.column)).takeWhile (· == ' ')).length

/-- The empty lines inside a block scalar. -/
def blockBreaks (indent : Nat) : Nat → Scan (List Char)
  | 0 => malformed
  | fuel + 1 => do
    skipIndent indent
    match ← lineBreak? with
    | some c => return c :: (← blockBreaks indent fuel)
    | none => return []

/-- The lines of a block scalar, with the last line break and the empty lines behind it. -/
def blockLines (folded : Bool) (indent : Nat) : Nat → List Char →
    Scan (List Char × List Char × List Char)
  | 0, _ => malformed
  | fuel + 1, breaks => do
    let s ← get
    if s.column ≠ indent ∨ s.rest.isEmpty then return ([], [], breaks)
    let leading := s.rest.head? != some ' ' && s.rest.head? != some '\t'
    let line ← takeWhile fun c => !isBreakOrEnd c
    let ending := (← lineBreak?).toList
    let more ← blockBreaks indent (fuel + 1)
    let s ← get
    if s.column = indent ∧ !s.rest.isEmpty then
      let following := s.rest.head? != some ' ' && s.rest.head? != some '\t'
      let joint :=
        if folded && ending == ['\n'] && leading && following then
          if more.isEmpty then [' '] else []
        else ending
      let (text, last, tail) ← blockLines folded indent fuel more
      return (breaks ++ line ++ joint ++ text, last, tail)
    else return (breaks ++ line, ending, more)

/-- A block scalar, whose line breaks are kept or folded. -/
def blockScalar (folded : Bool) : Scan Token := do
  forward 1
  let (chomping, increment) ← blockHeader
  finishLine
  let s ← get
  let fuel := 2 * s.rest.length + 2
  let least := (max (s.indent + 1) 1).toNat
  let (breaks, indent) ← match increment with
    | none => do
      let (breaks, deepest) ← blockIndentation fuel 0
      pure (breaks, max least deepest)
    | some n => do
      let indent := least + n - 1
      pure (← blockBreaks indent fuel, indent)
  let (text, last, tail) ← blockLines folded indent fuel breaks
  let ending := match chomping with
    | .strip => []
    | .clip => last
    | .keep => last ++ tail
  return .scalar (String.ofList (text ++ ending)) false

end EnrollmentDiagnosis.Yaml.Scan
