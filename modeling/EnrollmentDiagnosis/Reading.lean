import EnrollmentDiagnosis.Text.Lowercase
import EnrollmentDiagnosis.Text.Numeral
import EnrollmentDiagnosis.Time.Reading
import EnrollmentDiagnosis.Value.Text

set_option autoImplicit false

namespace EnrollmentDiagnosis

/-- One step from a record to a value inside it. -/
inductive LocationStep where
  | field (name : String)
  | index (n : Nat)
  deriving DecidableEq

/-- What is wrong with a value. -/
inductive Complaint where
  | missing
  | notText
  | notInteger
  | unreadableInteger
  | oversizedInteger
  | fractional
  | notFinite
  | notBoolean
  | unreadableBoolean
  | notList
  | notMapping
  | notRecord (model : String)
  | tooSmall (least : Int)
  | tooLarge (most : Int)
  | notOneOf (choices : List String)
  | rejected (reason : String)
  | notTime
  | unreadableTime
  deriving DecidableEq

/-- The word for the kind of a complaint. -/
def Complaint.kind : Complaint → String
  | missing => "missing"
  | notText => "string_type"
  | notInteger => "int_type"
  | unreadableInteger => "int_parsing"
  | oversizedInteger => "int_parsing_size"
  | fractional => "int_from_float"
  | notFinite => "finite_number"
  | notBoolean => "bool_type"
  | unreadableBoolean => "bool_parsing"
  | notList => "list_type"
  | notMapping => "dict_type"
  | notRecord _ => "model_type"
  | tooSmall _ => "greater_than_equal"
  | tooLarge _ => "less_than_equal"
  | notOneOf _ => "enum"
  | rejected _ => "value_error"
  | notTime => "datetime_type"
  | unreadableTime => "datetime_parsing"

/-- Choices in quotes, the last one after "or". -/
def choicesText : List String → String
  | [] => ""
  | [a] => Text.quoted a
  | [a, b] => Text.quoted a ++ " or " ++ Text.quoted b
  | a :: rest => Text.quoted a ++ ", " ++ choicesText rest

/-- The sentence for a complaint. -/
def Complaint.message : Complaint → String
  | missing => "Field required"
  | notText => "Input should be a valid string"
  | notInteger => "Input should be a valid integer"
  | unreadableInteger => "Input should be a valid integer, unable to parse string as an integer"
  | oversizedInteger => "Unable to parse input string as an integer, exceeded maximum size"
  | fractional => "Input should be a valid integer, got a number with a fractional part"
  | notFinite => "Input should be a finite number"
  | notBoolean => "Input should be a valid boolean"
  | unreadableBoolean => "Input should be a valid boolean, unable to interpret input"
  | notList => "Input should be a valid list"
  | notMapping => "Input should be a valid dictionary"
  | notRecord model => "Input should be a valid dictionary or instance of " ++ model
  | tooSmall least => "Input should be greater than or equal to " ++ integerText least
  | tooLarge most => "Input should be less than or equal to " ++ integerText most
  | notOneOf choices => "Input should be " ++ choicesText choices
  | rejected reason => "Value error, " ++ reason
  | notTime => ""
  | unreadableTime => ""

/-- A complaint and where it arose, as the path from the record that was read. -/
structure FieldError where
  location : List LocationStep
  complaint : Complaint
  deriving DecidableEq

def LocationStep.text : LocationStep → String
  | field name => name
  | index n => integerText n

/-- The path of an error with points between its steps. -/
def FieldError.path (e : FieldError) : String :=
  String.intercalate "." (e.location.map LocationStep.text)

/-- What ends a reading regardless of its other fields. -/
inductive Fault where
  /-- A payload that is neither empty nor a mapping; the word names its type. -/
  | payloadType (typeName : String)
  /-- A time that leaves the calendar. -/
  | timeOutOfRange
  deriving DecidableEq

def Fault.message : Fault → String
  | payloadType typeName => Text.quoted typeName ++ " object has no attribute 'items'"
  | timeOutOfRange => "date value out of range"

/-- The outcome of reading a value. -/
inductive Reading (α : Type) where
  | ok (a : α)
  | invalid (errors : List FieldError)
  | broken (fault : Fault)

namespace Reading

variable {α β : Type}

def map (f : α → β) : Reading α → Reading β
  | ok a => ok (f a)
  | invalid errors => invalid errors
  | broken fault => broken fault

/-- Applies a function that was read to a value that was read after it. The errors of both are
kept; a fault of the first comes before one of the second. -/
def apply (f : Reading (α → β)) (a : Reading α) : Reading β :=
  match f with
  | broken fault => broken fault
  | ok f => a.map f
  | invalid errors =>
    match a with
    | ok _ => invalid errors
    | invalid more => invalid (errors ++ more)
    | broken fault => broken fault

instance : Applicative Reading where
  pure := ok
  seq f a := apply f (a ())
  map := map

/-- Continues with a further check of the value. -/
def andThen (a : Reading α) (check : α → Reading β) : Reading β :=
  match a with
  | ok a => check a
  | invalid errors => invalid errors
  | broken fault => broken fault

/-- The same reading, one step inside a larger value. -/
def within (step : LocationStep) : Reading α → Reading α
  | invalid errors => invalid (errors.map fun e => { e with location := step :: e.location })
  | reading => reading

/-- A single complaint about the value itself. -/
def complain (c : Complaint) : Reading α := invalid [⟨[], c⟩]

def ofExcept (result : Except Complaint α) : Reading α :=
  match result with
  | .ok a => ok a
  | .error c => complain c

def text : Value → Reading String
  | .text s => ok s
  | _ => complain .notText

/-- Any value as its text, which is refused where there is none. -/
def display (v : Value) : Reading String :=
  match v.display? with
  | some text => ok text
  | none => complain (.rejected Value.unwritableReason)

@[simp] theorem display_text (s : String) : display (.text s) = ok s := rfl

/-- The integer that a text of ASCII digits denotes, with an optional sign, single underscores
between digits and zeros behind a point. -/
def integerOfText (s : String) : Except Complaint Int :=
  let (negative, body) := Text.signOf (Text.trimmed Text.isWhiteSpace s.toList)
  if body.any (fun c => 0x80 ≤ c.toNat) then .error .unreadableInteger
  else match Text.digits? 10 body with
    | none => .error .unreadableInteger
    | some (digits, rest) =>
      let tailFits := match rest with
        | [] => true
        | '.' :: zeros => zeros.all (· == '0')
        | _ => false
      if digits.isEmpty || !tailFits then .error .unreadableInteger
      else if Text.maxIntegerDigits < digits.length then .error .oversizedInteger
      else
        let size : Int := Text.digitsValue digits
        .ok (if negative then -size else size)

/-- The first integer that is too large for 64 bits with a sign. -/
def wordBound : Int := 9223372036854775808

/-- The integer that a float without a fraction stands for, within 64 bits. -/
def integerOfFloat (x : Number.Binary64) : Except Complaint Int :=
  match x.truncate? with
  | none => .error .notFinite
  | some n =>
    if !x.isWhole then .error .fractional
    else if -wordBound < n ∧ n < wordBound then .ok n
    else .error .oversizedInteger

def integer : Value → Reading Int
  | .int n => ok n
  | .bool b => ok (if b then 1 else 0)
  | .float x => ofExcept (integerOfFloat x)
  | .text s => ofExcept (integerOfText s)
  | _ => complain .notInteger

/-- An integer within closed bounds. -/
def integerWithin (least most : Int) (v : Value) : Reading Int :=
  (integer v).andThen fun n =>
    if most < n then complain (.tooLarge most)
    else if n < least then complain (.tooSmall least)
    else ok n

/-- The words for true and for false, in any case. -/
def trueWords : List String := ["1", "on", "t", "true", "y", "yes"]
def falseWords : List String := ["0", "off", "f", "false", "n", "no"]

def booleanOfText (s : String) : Except Complaint Bool :=
  let word := String.ofList (s.toList.map Char.toLower)
  if trueWords.contains word then .ok true
  else if falseWords.contains word then .ok false
  else .error .unreadableBoolean

def booleanOfInteger (n : Int) : Except Complaint Bool :=
  if n = 0 then .ok false
  else if n = 1 then .ok true
  else if -wordBound ≤ n ∧ n < wordBound then .error .unreadableBoolean
  else .error .notBoolean

def boolean : Value → Reading Bool
  | .bool b => ok b
  | .int n => ofExcept (booleanOfInteger n)
  | .float x => ofExcept (match integerOfFloat x with
    | .ok n => booleanOfInteger n
    | .error _ => .error .notBoolean)
  | .text s => ofExcept (booleanOfText s)
  | _ => complain .notBoolean

/-- A timestamp, or a number of seconds or milliseconds since 1970. -/
def timestamp : Value → Reading Time.Timestamp
  | .text s => ofTime (Time.Timestamp.ofText? s)
  | .int n => ofTime (Time.epochTimestamp? n 0)
  | .float x => ofTime (Time.epochDecimal? x)
  | .time t => ok t
  | .date d => ok ⟨Time.wallClock d 0 0 0 0, none⟩
  | _ => complain .notTime
where
  ofTime : Option Time.Timestamp → Reading Time.Timestamp
    | some t => ok t
    | none => complain .unreadableTime

/-- The items from a position on, each read at its index. -/
def items (read : Value → Reading α) : Nat → List Value → Reading (List α)
  | _, [] => ok []
  | n, v :: rest => apply (map List.cons ((read v).within (.index n))) (items read (n + 1) rest)

def list (read : Value → Reading α) : Value → Reading (List α)
  | .list vs => items read 0 vs
  | .tuple vs => items read 0 vs
  | .set vs => items read 0 vs
  | _ => complain .notList

/-- A value that may be null. -/
def optional (read : Value → Reading α) : Value → Reading (Option α)
  | .null => ok none
  | v => map some (read v)

/-- The entries of a mapping that stands for a record of a model. -/
def record (model : String) (read : List (Value × Value) → Reading α) : Value → Reading α
  | .map entries => read entries
  | _ => complain (.notRecord model)

/-- The first of the names that is a key, with its value. -/
def lookup (entries : List (Value × Value)) : List String → Option (String × Value)
  | [] => none
  | name :: rest =>
    match Value.find? entries name with
    | some v => some (name, v)
    | none => lookup entries rest

/-- A field under the first of its names that is a key. A field that is absent has its default
value, or is missing under the first name. -/
def field (entries : List (Value × Value)) (names : List String) (absent : Option α)
    (read : Value → Reading α) : Reading α :=
  match lookup entries names with
  | some (name, v) => (read v).within (.field name)
  | none =>
    match absent with
    | some a => ok a
    | none => invalid [⟨[.field (names.headD "")], .missing⟩]

/-- A field that must be present. -/
def required (entries : List (Value × Value)) (names : List String)
    (read : Value → Reading α) : Reading α :=
  field entries names none read

/-- A field with a default value. -/
def defaulted (entries : List (Value × Value)) (names : List String) (absent : α)
    (read : Value → Reading α) : Reading α :=
  field entries names (some absent) read

end Reading

/-- The lines that describe the errors of a record: their number, then for each its path, unless
that is empty, and its complaint. -/
def errorReport (model : String) (errors : List FieldError) : String :=
  let count := errors.length
  let noun := if count = 1 then " validation error for " else " validation errors for "
  let lines := errors.flatMap fun e =>
    (if e.location.isEmpty then [] else [e.path]) ++
      ["  " ++ e.complaint.message ++ " [type=" ++ e.complaint.kind ++ "]"]
  String.intercalate "\n" ((integerText count ++ noun ++ model) :: lines)

end EnrollmentDiagnosis
