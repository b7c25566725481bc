import EnrollmentDiagnosis.Reading

set_option autoImplicit false

namespace EnrollmentDiagnosis

/-- One datum of a payload. -/
inductive Datum where
  | null
  | bool (b : Bool)
  | int (n : Int)
  | float (x : Number.Binary64)
  | text (s : String)
  | group (entries : List (String × Datum))
  deriving Inhabited

/-- The named data of an event. -/
abbrev Payload := List (String × Datum)

namespace Datum

mutual

/-- Keeps scalars and mappings and replaces any other value by its text. -/
def ofValue : Value → Datum
  | .null => null
  | .bool b => bool b
  | .int n => int n
  | .float x => float x
  | .text s => text s
  | .map entries => group (ofEntries entries)
  | v => text v.display

def ofEntries : List (Value × Value) → Payload
  | [] => []
  | (k, v) :: rest => (k.display, ofValue v) :: ofEntries rest

end

mutual

def toValue : Datum → Value
  | null => .null
  | bool b => .bool b
  | int n => .int n
  | float x => .float x
  | text s => .text s
  | group entries => .map (toEntries entries)

def toEntries : Payload → List (Value × Value)
  | [] => []
  | (k, d) :: rest => (.text k, toValue d) :: toEntries rest

end

mutual

/-- True when a value can be normalized: whatever is replaced by its text can be written. -/
def isNormalizable : Value → Bool
  | .int _ => true
  | .map entries => areNormalizable entries
  | v => v.isWritable

def areNormalizable : List (Value × Value) → Bool
  | [] => true
  | (k, v) :: rest => k.isWritable && isNormalizable v && areNormalizable rest

end

end Datum

/-- The word for the type of a value. -/
def Value.typeName : Value → String
  | .null => "NoneType"
  | .bool _ => "bool"
  | .int _ => "int"
  | .float _ => "float"
  | .text _ => "str"
  | .bytes _ => "bytes"
  | .date _ => "date"
  | .time _ => "datetime"
  | .list _ => "list"
  | .tuple _ => "tuple"
  | .set _ => "set"
  | .map _ => "dict"
  | .cycle ofMap => if ofMap then "dict" else "list"

namespace Payload

/-- The payload that a value holds: the data of a mapping, and none in an empty value. -/
def ofValue (v : Value) : Reading Payload :=
  match v with
  | .map entries =>
    if Datum.areNormalizable entries then .ok (Datum.ofEntries entries)
    else Reading.complain (.rejected Value.unwritableReason)
  | v => if v.isTruthy then .broken (.payloadType v.typeName) else .ok []

def toValue (p : Payload) : Value := .map (Datum.toEntries p)

/-- The datum with exactly the given name. -/
def exactDatum? (p : Payload) (name : String) : Option Datum :=
  match p with
  | [] => none
  | (k, d) :: rest => if k = name then some d else exactDatum? rest name

/-- The first datum whose name has the given lowercase. -/
def caseless? (p : Payload) (lowered : String) : Option Datum :=
  match p with
  | [] => none
  | (k, d) :: rest => if Text.lower k = lowered then some d else caseless? rest lowered

/-- The datum with a name, or else the first one with that name in another case. -/
def find? (p : Payload) (name : String) : Option Datum :=
  match p.exactDatum? name with
  | some d => some d
  | none => p.caseless? (Text.lower name)

/-- The parts of a list between its points. -/
def splitPath : List Char → List (List Char)
  | [] => [[]]
  | c :: rest =>
    if c = '.' then [] :: splitPath rest
    else match splitPath rest with
      | [] => [[c]]
      | part :: parts => (c :: part) :: parts

/-- The names of a path, which have points between them. -/
def pathNames (path : String) : List String := (splitPath path.toList).map String.ofList

/-- The datum at the end of a path of names. -/
def follow? : Datum → List String → Option Datum
  | d, [] => some d
  | .group entries, name :: rest =>
    match find? entries name with
    | some d => follow? d rest
    | none => none
  | _, _ :: _ => none

/-- The datum with a name, or else at the end of a path. -/
def datum? (p : Payload) (path : String) : Option Datum :=
  match p.find? path with
  | some d => some d
  | none => follow? (.group p) (pathNames path)

end Payload

end EnrollmentDiagnosis
