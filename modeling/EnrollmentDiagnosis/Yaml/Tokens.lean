import EnrollmentDiagnosis.Yaml.Scalar

set_option autoImplicit false

namespace EnrollmentDiagnosis.Yaml

namespace Scan

/-- A possible key spans at most this many characters of one line. -/
def maxKeyLength : Nat := 1024

/-- Gives up possible keys that have become too long; a key that must be one is an error. -/
def dropStaleKeys : Scan Unit := do
  let s ← get
  let stale (key : SimpleKey) := key.line != s.line || decide (maxKeyLength < s.index - key.index)
  if s.keys.any fun (_, key) => stale key && key.required then malformed
  set { s with keys := s.keys.filter fun (_, key) => !stale key }

/-- Gives up the possible key at the current level. -/
def dropKey : Scan Unit := do
  let s ← get
  match List.lookup s.flowLevel s.keys with
  | some key =>
    if key.required then malformed
    set { s with keys := s.keys.filter fun (level, _) => level != s.flowLevel }
  | none => return ()

/-- Notes that a key may start here. -/
def noteKey : Scan Unit := do
  let s ← get
  if s.allowsKey then
    dropKey
    let s ← get
    let required := s.flowLevel == 0 && s.indent == (s.column : Int)
    let key : SimpleKey := ⟨s.tokens.size, required, s.index, s.line, s.column⟩
    set { s with keys := (s.flowLevel, key) :: s.keys }

def setAllowsKey (allows : Bool) : Scan Unit := modify fun s => { s with allowsKey := allows }

/-- Closes the block collections that are indented deeper than a column. -/
def unwind (column : Int) : Scan Unit := do
  let s ← get
  if s.flowLevel = 0 then
    let rec close : Int → List Int → List Token → Int × List Int × List Token
      | indent, [], ends => (indent, [], ends)
      | indent, outer :: rest, ends =>
        if column < indent then close outer rest (.blockEnd :: ends)
        else (indent, outer :: rest, ends)
    let (indent, indents, ends) := close s.indent s.indents []
    set { s with indent := indent, indents := indents, tokens := s.tokens ++ ends.toArray }

/-- Opens a block collection at a column if that is deeper than the current one. -/
def deepen (column : Nat) : Scan Bool := do
  let s ← get
  if s.indent < (column : Int) then
    set { s with indent := column, indents := s.indent :: s.indents }
    return true
  else return false

/-- Skips spaces, comments and line breaks before the next token. -/
def skipToToken : Nat → Scan Unit
  | 0 => return ()
  | fuel + 1 => do
    if (← get).index == 0 && (← peek) == '\uFEFF' then forward 1
    skipSpaces
    skipComment
    match ← lineBreak? with
    | some _ =>
      if (← get).flowLevel == 0 then setAllowsKey true
      skipToToken fuel
    | none => return ()

/-- Reads a word that is not empty. -/
def word : Scan String := do
  let chars ← takeWhile isWordChar
  if chars.isEmpty then malformed
  return String.ofList chars

/-- One of the two numbers of a version. -/
def versionNumber : Scan Nat := do
  let digits ← takeWhile Char.isDigit
  if digits.isEmpty then malformed
  if Text.maxIntegerDigits < digits.length then throw (.versionTooLong digits.length)
  return Text.digitsValue (digits.filterMap Text.asciiDigit?)

/-- The handle of a tag: an exclamation mark, or a word between two. -/
def tagHandle : Scan String := do
  if (← peek) != '!' then malformed
  forward 1
  if (← peek) == ' ' then return "!"
  let chars ← takeWhile isWordChar
  if (← peek) != '!' then malformed
  forward 1
  return String.ofList ('!' :: chars ++ ['!'])

def isUriChar (c : Char) : Bool :=
  c.isAlphanum || "-;/?:@&=+$,_.!~*'()[]%".toList.contains c

/-- The bytes of escapes `%XX` at the start of a text. -/
def escapedBytes : Nat → List Char → Option (List UInt8 × List Char)
  | 0, s => some ([], s)
  | fuel + 1, '%' :: rest => do
    let byte ← hexValue? 2 rest
    let (bytes, s) ← escapedBytes fuel (rest.drop 2)
    some (byte.toUInt8 :: bytes, s)
  | _, s => some ([], s)

/-- The rest of a tag, in which runs of escapes must be UTF-8. -/
def tagUri : Nat → Scan (List Char)
  | 0 => malformed
  | fuel + 1 => do
    let plain ← takeWhile fun c => isUriChar c && c != '%'
    if (← peek) == '%' then
      let rest := (← get).rest
      match escapedBytes (rest.length + 1) rest with
      | none => malformed
      | some (bytes, left) =>
        match String.fromUTF8? (ByteArray.mk bytes.toArray) with
        | none => malformed
        | some text =>
          forward (rest.length - left.length)
          return plain ++ text.toList ++ (← tagUri fuel)
    else return plain

def nonemptyUri : Scan String := do
  let chars ← tagUri ((← get).rest.length + 1)
  if chars.isEmpty then malformed
  return String.ofList chars

/-- A directive, from its percent sign to the end of its line. -/
def directive : Scan Token := do
  forward 1
  let name ← word
  if !isSpaceBreakOrEnd (← peek) then malformed
  let d ← if name = "YAML" then do
      skipSpaces
      let major ← versionNumber
      if (← peek) != '.' then malformed
      forward 1
      let _ ← versionNumber
      if !isSpaceBreakOrEnd (← peek) then malformed
      pure (Directive.version major)
    else if name = "TAG" then do
      skipSpaces
      let handle ← tagHandle
      if (← peek) != ' ' then malformed
      skipSpaces
      let start ← nonemptyUri
      if !isSpaceBreakOrEnd (← peek) then malformed
      pure (Directive.tag handle start)
    else do
      let _ ← takeWhile fun c => !isBreakOrEnd c
      pure Directive.other
  finishLine
  return .directive d

/-- The name of an anchor or alias, from its mark on. -/
def anchorName : Scan String := do
  forward 1
  let name ← word
  let c ← peek
  if isGap c || ['?', ':', ',', ']', '\x7d', '%', '@', '\x60'].contains c then return name
  else malformed

/-- True when an exclamation mark comes before the next gap. -/
def hasHandle (rest : List Char) : Bool :=
  (rest.takeWhile fun c => !isSpaceBreakOrEnd c).contains '!'

/-- A tag, from its exclamation mark on. -/
def tagToken : Scan Token := do
  let next ← peekAt 1
  let token ← if next == '<' then do
      forward 2
      let suffix ← nonemptyUri
      if (← peek) != '>' then malformed
      forward 1
      pure (Token.tag none suffix)
    else if isGap next then do
      forward 1
      pure (Token.tag none "!")
    else if hasHandle ((← get).rest.drop 1) then do
      let handle ← tagHandle
      pure (Token.tag (some handle) (← nonemptyUri))
    else do
      forward 1
      pure (Token.tag (some "!") (← nonemptyUri))
  if !isSpaceBreakOrEnd (← peek) then malformed
  return token

/-- A token that ends the block collections and possible keys before it. -/
def documentToken (token : Scan Token) : Scan Unit := do
  unwind (-1)
  dropKey
  setAllowsKey false
  push (← token)

def separator (token : Token) : Scan Token := do
  forward 3
  return token

def openFlow (token : Token) : Scan Unit := do
  noteKey
  modify fun s => { s with flowLevel := s.flowLevel + 1 }
  setAllowsKey true
  forward 1
  push token

def closeFlow (token : Token) : Scan Unit := do
  dropKey
  let s ← get
  if s.flowLevel = 0 then malformed
  set { s with flowLevel := s.flowLevel - 1 }
  setAllowsKey false
  forward 1
  push token

def flowEntry : Scan Unit := do
  setAllowsKey true
  dropKey
  forward 1
  push .flowEntry

/-- In a block, a mark at this place must be allowed and may open a collection. -/
def openBlock (start : Token) : Scan Unit := do
  let s ← get
  if s.flowLevel = 0 then
    if !s.allowsKey then malformed
    if ← deepen s.column then push start

def blockEntry : Scan Unit := do
  openBlock .blockSequenceStart
  setAllowsKey true
  dropKey
  forward 1
  push .blockEntry

def keyMark : Scan Unit := do
  openBlock .blockMappingStart
  setAllowsKey ((← get).flowLevel == 0)
  dropKey
  forward 1
  push .key

/-- The colon before a value: what was a possible key becomes one. -/
def valueMark : Scan Unit := do
  let s ← get
  match List.lookup s.flowLevel s.keys with
  | some key =>
    set { s with keys := s.keys.filter fun (level, _) => level != s.flowLevel }
    insertAt key.tokenNumber .key
    if s.flowLevel = 0 then
      if ← deepen key.column then insertAt key.tokenNumber .blockMappingStart
    setAllowsKey false
  | none =>
    openBlock .blockMappingStart
    setAllowsKey ((← get).flowLevel == 0)
    dropKey
  forward 1
  push .value

/-- A token that may start a key. -/
def keyStart (token : Scan Token) : Scan Unit := do
  noteKey
  setAllowsKey false
  push (← token)

def blockScalarToken (folded : Bool) : Scan Unit := do
  setAllowsKey true
  dropKey
  push (← blockScalar folded)

/-- True where a plain scalar can start. -/
def startsPlain (inFlow : Bool) (c next : Char) : Bool :=
  !(isGap c || "-?:,[]\x7b\x7d#&*!|>'\"%@`".toList.contains c) ||
    (!isGap next && (c == '-' || (!inFlow && (c == '?' || c == ':'))))

/-- Reads the next token; false at the end of the text. -/
def nextToken : Scan Bool := do
  skipToToken ((← get).rest.length + 1)
  dropStaleKeys
  unwind (← get).column
  let s ← get
  let c ← peek
  let next ← peekAt 1
  let inFlow := s.flowLevel != 0
  if s.rest.isEmpty then
    unwind (-1)
    dropKey
    push .streamEnd
    return false
  else if c == '%' && s.column == 0 then documentToken directive
  else if s.column == 0 && (← atSeparator) then
    documentToken (separator (if c == '-' then .documentStart else .documentEnd))
  else if c == '[' then openFlow .flowSequenceStart
  else if c == '\x7b' then openFlow .flowMappingStart
  else if c == ']' then closeFlow .flowSequenceEnd
  else if c == '\x7d' then closeFlow .flowMappingEnd
  else if c == ',' then flowEntry
  else if c == '-' && isGap next then blockEntry
  else if c == '?' && (inFlow || isGap next) then keyMark
  else if c == ':' && (inFlow || isGap next) then valueMark
  else if c == '*' then keyStart (return .alias (← anchorName))
  else if c == '&' then keyStart (return .anchor (← anchorName))
  else if c == '!' then keyStart tagToken
  else if c == '|' && !inFlow then blockScalarToken false
  else if c == '>' && !inFlow then blockScalarToken true
  else if c == '\'' then keyStart (quotedScalar false)
  else if c == '"' then keyStart (quotedScalar true)
  else if startsPlain inFlow c next then keyStart plainScalar
  else malformed
  return true

end Scan

/-- All tokens from a place on. Where no more can be read, the last token tells why. -/
def Source.allTokens : Nat → Source → Array Token
  | 0, s => s.tokens
  | fuel + 1, s =>
    match Scan.nextToken.run s with
    | .ok (true, s) => Source.allTokens fuel s
    | .ok (false, s) => s.tokens
    | .error e => s.tokens.push (.failure e)

/-- The tokens of a text; a text with characters that are not allowed has none. -/
def tokens (text : String) : List Token :=
  let chars := text.toList
  if chars.all isAllowed then (Source.allTokens (chars.length + 2) (Source.ofText chars)).toList
  else [.failure .malformed]

end EnrollmentDiagnosis.Yaml
