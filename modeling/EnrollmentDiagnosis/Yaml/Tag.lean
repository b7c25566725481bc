import EnrollmentDiagnosis.Yaml.Token

set_option autoImplicit false

namespace EnrollmentDiagnosis.Yaml

/-- The type of a node. -/
inductive Tag where
  | null
  | bool
  | int
  | float
  | timestamp
  | text
  | binary
  | sequence
  | mapping
  | set
  | orderedMap
  | pairs
  /-- A key whose value is merged into its mapping. -/
  | merge
  /-- A key whose value stands for its mapping. -/
  | value
  | other (name : String)
  deriving DecidableEq, Inhabited

namespace Tag

/-- What the names of common tags start with. -/
def commonStart : String := "tag:yaml.org,2002:"

def commonNames : List (String × Tag) := [
  ("null", null), ("bool", bool), ("int", int), ("float", float), ("timestamp", timestamp),
  ("str", text), ("binary", binary), ("seq", sequence), ("map", mapping), ("set", set),
  ("omap", orderedMap), ("pairs", pairs), ("merge", merge), ("value", value)]

/-- The tag with a full name. -/
def ofName (name : String) : Tag :=
  match commonNames.find? fun entry => commonStart ++ entry.1 == name with
  | some (_, tag) => tag
  | none => other name

def booleanWords : List String := [
  "yes", "Yes", "YES", "no", "No", "NO", "true", "True", "TRUE", "false", "False", "FALSE",
  "on", "On", "ON", "off", "Off", "OFF"]

def nullWords : List String := ["", "~", "null", "Null", "NULL"]

/-- Drops an optional sign. -/
def unsigned : List Char → List Char
  | '-' :: rest => rest
  | '+' :: rest => rest
  | s => s

def isDigitOrGap (c : Char) : Bool := c.isDigit || c == '_'

/-- Parts `:n` of a number to the base sixty, at least `least` of them; what follows them. -/
def sexagesimal? : Nat → Nat → List Char → Option (List Char)
  | 0, _, _ => none
  | fuel + 1, least, ':' :: a :: b :: rest =>
    if a.isDigit && b.isDigit && a < '6' then sexagesimal? fuel (least - 1) rest
    else if a.isDigit then sexagesimal? fuel (least - 1) (b :: rest)
    else if least = 0 then some (':' :: a :: b :: rest) else none
  | fuel + 1, least, ':' :: a :: rest =>
    if a.isDigit then sexagesimal? fuel (least - 1) rest
    else if least = 0 then some (':' :: a :: rest) else none
  | _ + 1, least, s => if least = 0 then some s else none

/-- True for integers to the bases two, eight, ten, sixteen and sixty. -/
def isInteger (s : List Char) : Bool :=
  match unsigned s with
  | ['0'] => true
  | '0' :: 'b' :: rest => !rest.isEmpty && rest.all fun c => c == '0' || c == '1' || c == '_'
  | '0' :: 'x' :: rest =>
    !rest.isEmpty && rest.all fun c =>
      isDigitOrGap c || ('a' ≤ c && c ≤ 'f') || ('A' ≤ c && c ≤ 'F')
  | '0' :: rest => rest.all fun c => ('0' ≤ c && c ≤ '7') || c == '_'
  | c :: rest =>
    c.isDigit &&
      match rest.dropWhile isDigitOrGap with
      | [] => true
      | tail => sexagesimal? (tail.length + 1) 1 tail == some []
  | [] => false

/-- True for nothing, and for an exponent with a sign. -/
def isExponent : List Char → Bool
  | [] => true
  | e :: sign :: digits =>
    (e == 'e' || e == 'E') && (sign == '-' || sign == '+') && !digits.isEmpty &&
      digits.all Char.isDigit
  | _ => false

/-- True for numbers with a point, and for infinities and not-a-number. -/
def isFloat (s : List Char) : Bool :=
  let body := unsigned s
  let word := String.ofList body
  if [".inf", ".Inf", ".INF"].contains word then true
  else if [".nan", ".NaN", ".NAN"].contains (String.ofList s) then true
  else match body with
    | '.' :: c :: rest =>
      body.length == s.length && c.isDigit && isExponent (rest.dropWhile isDigitOrGap)
    | c :: rest =>
      c.isDigit &&
        match rest.dropWhile isDigitOrGap with
        | '.' :: fraction => isExponent (fraction.dropWhile isDigitOrGap)
        | ':' :: tail =>
          match sexagesimal? (tail.length + 2) 1 (':' :: tail) with
          | some ('.' :: fraction) => fraction.all isDigitOrGap
          | _ => false
        | _ => false
    | [] => false

end Tag

/-- The parts of a timestamp in the order in which they are written. -/
structure TimestampParts where
  year : Nat
  month : Nat
  day : Nat
  /-- Hour, minute, second and microsecond. -/
  clock : Option (Nat × Nat × Nat × Nat)
  /-- Seconds ahead of universal time. -/
  offset : Option Int
  /-- True where month and day have two digits. -/
  isFull : Bool
  deriving DecidableEq, Inhabited

namespace TimestampParts

/-- One or two digits at the start of a text. -/
def shortNumber? : List Char → Option (Nat × Nat × List Char)
  | a :: b :: rest =>
    if a.isDigit && b.isDigit then some ((a.toNat - 48) * 10 + (b.toNat - 48), 2, rest)
    else if a.isDigit then some (a.toNat - 48, 1, b :: rest)
    else none
  | [a] => if a.isDigit then some (a.toNat - 48, 1, []) else none
  | [] => none

/-- Exactly so many digits at the start of a text. -/
def number? (count : Nat) (s : List Char) : Option (Nat × List Char) :=
  let digits := (s.take count).filterMap Text.asciiDigit?
  if digits.length = count then some (Text.digitsValue digits, s.drop count) else none

def drop? (c : Char) : List Char → Option (List Char)
  | d :: rest => if d = c then some rest else none
  | [] => none

/-- The microseconds of a fraction, of which six digits count. -/
def microseconds (digits : List Char) : Nat :=
  let six := (digits.take 6).filterMap Text.asciiDigit?
  Text.digitsValue six * Number.tenTo (6 - six.length)

/-- The offset at the end of a timestamp. -/
def offset? (s : List Char) : Option (Option Int) :=
  match s.dropWhile fun c => c == ' ' || c == '\t' with
  | [] => if s.isEmpty then some none else none
  | ['Z'] => some (some 0)
  | sign :: rest => do
    let negative ← if sign = '-' then some true else if sign = '+' then some false else none
    let (hours, _, rest) ← shortNumber? rest
    let minutes ← match rest with
      | [] => some 0
      | _ => do
        let rest ← drop? ':' rest
        let (minutes, rest) ← number? 2 rest
        if rest.isEmpty then some minutes else none
    let size : Int := (hours * 3600 + minutes * 60 : Nat)
    some (some (if negative then -size else size))

/-- The time of day behind a date, with its offset. -/
def clock? (s : List Char) : Option ((Nat × Nat × Nat × Nat) × Option Int) := do
  let s ← match s with
    | 'T' :: rest => some rest
    | 't' :: rest => some rest
    | c :: rest =>
      if c = ' ' ∨ c = '\t' then some (rest.dropWhile fun c => c == ' ' || c == '\t') else none
    | [] => none
  let (hour, _, s) ← shortNumber? s
  let s ← drop? ':' s
  let (minute, s) ← number? 2 s
  let s ← drop? ':' s
  let (second, s) ← number? 2 s
  match s with
  | '.' :: rest =>
    let offset ← offset? (rest.dropWhile Char.isDigit)
    some ((hour, minute, second, microseconds (rest.takeWhile Char.isDigit)), offset)
  | _ =>
    let offset ← offset? s
    some ((hour, minute, second, 0), offset)

/-- The parts of a date, or of a date and time. -/
def ofText? (s : List Char) : Option TimestampParts := do
  let (year, s) ← number? 4 s
  let s ← drop? '-' s
  let (month, monthDigits, s) ← shortNumber? s
  let s ← drop? '-' s
  let (day, dayDigits, s) ← shortNumber? s
  let isFull := monthDigits == 2 && dayDigits == 2
  match s with
  | [] => some ⟨year, month, day, none, none, isFull⟩
  | _ =>
    let (clock, offset) ← clock? s
    some ⟨year, month, day, some clock, offset, isFull⟩

end TimestampParts

/-- True for dates with all their digits, and for timestamps. -/
def Tag.isTimestamp (s : List Char) : Bool :=
  match TimestampParts.ofText? s with
  | some parts => parts.clock.isSome || parts.isFull
  | none => false

/-- A text without a line feed at its end. -/
def withoutFinalBreak (s : List Char) : List Char :=
  if s.getLast? = some '\n' then s.dropLast else s

/-- The tag of a plain scalar with a text. -/
def Tag.ofPlain (text : String) : Tag :=
  let s := withoutFinalBreak text.toList
  let word := String.ofList s
  if booleanWords.contains word then .bool
  else if isFloat s then .float
  else if isInteger s then .int
  else if word = "<<" then .merge
  else if nullWords.contains word && !(text != "" && word = "") then .null
  else if isTimestamp s then .timestamp
  else if word = "=" then .value
  else .text

end EnrollmentDiagnosis.Yaml
