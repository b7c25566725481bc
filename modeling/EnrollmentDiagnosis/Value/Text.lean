import EnrollmentDiagnosis.Number.Shortest
import EnrollmentDiagnosis.Text.Numeral
import EnrollmentDiagnosis.Text.Quoted
import EnrollmentDiagnosis.Value.Basic

set_option autoImplicit false

namespace EnrollmentDiagnosis

/-- The decimal text of an integer. -/
def integerText (n : Int) : String :=
  String.ofList (if n < 0 then '-' :: Number.digitsOf n.natAbs else Number.digitsOf n.natAbs)

namespace Value

/-- The spellings of values that are no texts or numbers, and of what surrounds collections. -/
structure Spelling where
  nothing : String
  yes : String
  no : String
  listOpen : String
  listClose : String
  mapOpen : String
  mapClose : String
  inside : String

/-- Capitalised constants, brackets around lists and braces around mappings. -/
def spelling : Spelling := ⟨"None", "True", "False", "[", "]", "\x7b", "\x7d", "..."⟩

/-- Parts with a comma and a space between them. -/
def joined (parts : List String) : String := String.intercalate ", " parts

/-- A constructor call with its arguments. -/
def called (name : String) (arguments : List String) : String :=
  name ++ "(" ++ joined arguments ++ ")"

def numbers (ns : List Nat) : List String := ns.map fun (n : Nat) => integerText n

/-- A clock's offset inside a printed collection. -/
def zoneLiteral (offset : Int) : String :=
  if offset = 0 then "datetime.timezone.utc"
  else
    let days := offset / 86400
    let seconds := offset % 86400
    let parts := (if days = 0 then [] else ["days=" ++ integerText days]) ++
      (if seconds = 0 then [] else ["seconds=" ++ integerText seconds])
    called "datetime.timezone" [called "datetime.timedelta" parts]

def dateLiteral (d : Time.Date) : String :=
  called "datetime.date" (numbers [d.year, d.month, d.day])

def timeLiteral (t : Time.Timestamp) : String :=
  let p := t.parts
  let tail := if p.microsecond ≠ 0 then [p.second, p.microsecond]
    else if p.second ≠ 0 then [p.second] else []
  let fields := [p.date.year, p.date.month, p.date.day, p.hour, p.minute]
  called "datetime.datetime" (numbers (fields ++ tail) ++
    match t.offset with
    | none => []
    | some offset => ["tzinfo=" ++ zoneLiteral offset])

/-- One byte inside quoted bytes. -/
def byteChars (quote : Char) (b : Nat) : List Char :=
  let c := Char.ofNat b
  if c = quote ∨ c = '\\' then ['\\', c]
  else if c = '\n' then ['\\', 'n']
  else if c = '\r' then ['\\', 'r']
  else if c = '\t' then ['\\', 't']
  else if 0x20 ≤ b ∧ b < 0x7F then [c]
  else '\\' :: 'x' :: Text.hexadecimal 2 b

def bytesLiteral (bs : List Nat) : String :=
  let quote := Text.quoteFor (bs.map Char.ofNat)
  String.ofList ('b' :: quote :: bs.flatMap (byteChars quote) ++ [quote])

mutual

/-- The text of a value inside a collection. -/
def literal : Value → String
  | null => spelling.nothing
  | bool b => if b then spelling.yes else spelling.no
  | int n => integerText n
  | float x => x.text
  | text s => Text.quoted s
  | bytes b => bytesLiteral b
  | date d => dateLiteral d
  | time t => timeLiteral t
  | list items => spelling.listOpen ++ joined (literals items) ++ spelling.listClose
  | tuple items => match literals items with
    | [one] => "(" ++ one ++ ",)"
    | parts => "(" ++ joined parts ++ ")"
  | set items => match items with
    | [] => "set()"
    | _ => spelling.mapOpen ++ joined (literals items) ++ spelling.mapClose
  | map entries => spelling.mapOpen ++ joined (entryLiterals entries) ++ spelling.mapClose
  | cycle ofMap =>
    if ofMap then spelling.mapOpen ++ spelling.inside ++ spelling.mapClose
    else spelling.listOpen ++ spelling.inside ++ spelling.listClose

def literals : List Value → List String
  | [] => []
  | v :: rest => literal v :: literals rest

def entryLiterals : List (Value × Value) → List String
  | [] => []
  | (k, v) :: rest => (literal k ++ ": " ++ literal v) :: entryLiterals rest

end

/-- True unless an integer has too many digits to be written. -/
def integerIsWritable (n : Int) : Bool :=
  decide ((Number.digitsOf n.natAbs).length ≤ Text.maxIntegerDigits)

mutual

/-- True when a value has a text: every integer in it is short enough to be written. -/
def isWritable : Value → Bool
  | int n => integerIsWritable n
  | list items => areWritable items
  | tuple items => areWritable items
  | set items => areWritable items
  | map entries => entriesAreWritable entries
  | _ => true

def areWritable : List Value → Bool
  | [] => true
  | v :: rest => isWritable v && areWritable rest

def entriesAreWritable : List (Value × Value) → Bool
  | [] => true
  | (k, v) :: rest => isWritable k && isWritable v && entriesAreWritable rest

end

/-- Why a value has no text. -/
def unwritableReason : String :=
  "Exceeds the limit (" ++ toString Text.maxIntegerDigits ++ " digits) for integer string " ++
    "conversion; use sys.set_int_max_str_digits() to increase the limit"

/-- The text of a value on its own: texts are not quoted and timestamps are in ISO form. -/
def display : Value → String
  | text s => s
  | date d => d.isoText
  | time t => t.spacedText
  | v => literal v

/-- The text of a value that has one. -/
def display? (v : Value) : Option String := if v.isWritable then some v.display else none

/-- The text by which operators compare a value: none for null, `true` and `false` for booleans,
and no fraction on whole numbers. -/
def comparisonText : Value → Option String
  | null => none
  | bool b => some (if b then "true" else "false")
  | float x => some (if x.isWhole then integerText (x.truncate?.getD 0) else x.text)
  | v => some v.display

end Value

end EnrollmentDiagnosis
