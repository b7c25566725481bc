import EnrollmentDiagnosis.Text.Numeral
import EnrollmentDiagnosis.Time.Calendar

set_option autoImplicit false

namespace EnrollmentDiagnosis.Yaml

/-- Why the parts of a date or time do not form one. -/
inductive TimeFault where
  | year (n : Nat)
  | month
  | day
  | hour
  | minute
  | second
  /-- The offset from universal time reaches a day; it is given in seconds. -/
  | offset (seconds : Int)
  deriving DecidableEq

/-- Why a text does not form a tree of nodes. -/
inductive SyntaxError where
  /-- The text is no YAML document. -/
  | malformed
  /-- An escape beyond the last code point; the flag tells those beyond 31 bits. -/
  | characterOutOfRange (beyondWord : Bool)
  /-- A number of a version directive that has too many digits. -/
  | versionTooLong (digits : Nat)
  deriving DecidableEq

/-- Why a document cannot be read. -/
inductive LoadError where
  /-- The text is no YAML document, or a node does not fit its tag. -/
  | malformed
  /-- A scalar that is no number of its type. -/
  | numeral (e : Text.NumeralError)
  /-- A number without digits. -/
  | emptyNumber
  | notBoolean (word : String)
  | notTimestamp
  | time (fault : TimeFault)
  /-- A number to the base sixty with a place whose weight is no number. -/
  | weightOutOfRange
  /-- A mapping that is tagged as a time: what stands for it is not its own text. -/
  | notText
  /-- An escape beyond the last code point; the flag tells those beyond 31 bits. -/
  | characterOutOfRange (beyondWord : Bool)
  /-- The text is nested more deeply than the stack allows. -/
  | stackExhausted
  deriving DecidableEq

/-- The error of loading a text with a syntax error. -/
def SyntaxError.toLoadError : SyntaxError → LoadError
  | malformed => .malformed
  | characterOutOfRange beyondWord => .characterOutOfRange beyondWord
  | versionTooLong digits => .numeral (.tooManyDigits digits)

/-- The text of an offset in days and seconds. -/
def offsetText (seconds : Int) : String :=
  let number (n : Int) := String.ofList
    (if n < 0 then '-' :: Number.digitsOf n.natAbs else Number.digitsOf n.natAbs)
  let days := seconds / 86400
  let rest := seconds % 86400
  let parts := (if days = 0 then [] else ["days=" ++ number days]) ++
    (if rest = 0 then [] else ["seconds=" ++ number rest])
  "datetime.timedelta(" ++ String.intercalate ", " parts ++ ")"

def TimeFault.message : TimeFault → String
  | year n => "year " ++ String.ofList (Number.digitsOf n) ++ " is out of range"
  | month => "month must be in 1..12"
  | day => "day is out of range for month"
  | hour => "hour must be in 0..23"
  | minute => "minute must be in 0..59"
  | second => "second must be in 0..59"
  | offset seconds =>
    "offset must be a timedelta strictly between -timedelta(hours=24) and timedelta(hours=24), " ++
      "not " ++ offsetText seconds ++ "."

def LoadError.message : LoadError → String
  | malformed => "<yaml error>"
  | numeral e => e.message
  | emptyNumber => "string index out of range"
  | notBoolean word => Text.quoted word
  | notTimestamp => "'NoneType' object has no attribute 'groupdict'"
  | time fault => fault.message
  | weightOutOfRange => "int too large to convert to float"
  | notText => "expected string or bytes-like object, got 'list'"
  | characterOutOfRange beyondWord =>
    if beyondWord then "Python int too large to convert to C int"
    else "chr() arg not in range(0x110000)"
  | stackExhausted => "maximum recursion depth exceeded"

/-- A directive at the start of a document. -/
inductive Directive where
  | version (major : Nat)
  | tag (handle start : String)
  | other
  deriving DecidableEq, Inhabited

inductive Token where
  | directive (d : Directive)
  | documentStart
  | documentEnd
  | blockSequenceStart
  | blockMappingStart
  | blockEnd
  | flowSequenceStart
  | flowSequenceEnd
  | flowMappingStart
  | flowMappingEnd
  | blockEntry
  | flowEntry
  | key
  | value
  | alias (name : String)
  | anchor (name : String)
  /-- A tag with its handle, where it has one, and the rest. -/
  | tag (handle : Option String) (suffix : String)
  | scalar (text : String) (plain : Bool)
  | streamEnd
  /-- The place from which on no more tokens can be read. -/
  | failure (e : SyntaxError)
  deriving DecidableEq, Inhabited

end EnrollmentDiagnosis.Yaml
