import EnrollmentDiagnosis.Rule.Record
import EnrollmentDiagnosis.Yaml.Load

set_option autoImplicit false

namespace EnrollmentDiagnosis.RuleBook

/-- Where a rules document comes from, and what its rules get from there. -/
structure Origin where
  /-- The name of the place, for notices. -/
  source : String
  isBuiltin : Bool
  /-- The threshold of the rules that do not state one. -/
  defaultThreshold : Option Int
  deriving DecidableEq, Inhabited

/-- Why a document is refused as a whole. -/
inductive DocumentError where
  /-- The text of the document has no value. -/
  | unloadable (source : String) (cause : Yaml.LoadError)
  /-- A notice cannot be written; those before it can. -/
  | unwritable (notices : List String)
  deriving DecidableEq

namespace DocumentError

def message : DocumentError → String
  | unloadable source .malformed =>
    "Invalid YAML in " ++ source ++ ": " ++ Yaml.LoadError.message .malformed
  | unloadable _ cause => cause.message
  | unwritable _ => Value.unwritableReason

/-- What there is to note about a document before it is refused. -/
def notices : DocumentError → List String
  | unloadable _ _ => []
  | unwritable notices => notices

end DocumentError

/-- What an entry of a document gives: a rule, or a notice about the entry if one can be written. -/
abbrev Entry := Except (Option String) Rule

/-- The rules of a document, and what there is to note about it. -/
structure Document where
  rules : List Rule
  notices : List String
  deriving Inhabited

namespace Document

/-- The rules and the notices of entries, each in the order of the entries, up to a notice that
cannot be written. -/
def ofEntries : List Entry → Except DocumentError Document
  | [] => .ok ⟨[], []⟩
  | .ok rule :: rest =>
    (ofEntries rest).map fun document => ⟨rule :: document.rules, document.notices⟩
  | .error (some notice) :: rest =>
    match ofEntries rest with
    | .ok document => .ok ⟨document.rules, notice :: document.notices⟩
    | .error e => .error (.unwritable (notice :: e.notices))
  | .error none :: _ => .error (.unwritable [])

end Document

/-- True when one of the names is a key. -/
def hasKey (entries : List (Value × Value)) (names : List String) : Bool :=
  names.any fun name => (Value.find? entries name).isSome

/-- The entries without those whose keys are among the names. -/
def withoutKeys (entries : List (Value × Value)) (names : List String) : List (Value × Value) :=
  entries.filter fun entry => match entry.1 with
    | .text key => !names.contains key
    | _ => true

namespace Origin

/-- The fields of a rule as they are read from this origin: the mark of the built-in library is the
origin's, and so is the threshold where none is stated. -/
def complete (origin : Origin) (fields : List (Value × Value)) : List (Value × Value) :=
  let marked := (.text "is_builtin", .bool origin.isBuiltin) :: withoutKeys fields Rule.builtinNames
  match origin.defaultThreshold with
  | none => marked
  | some threshold =>
    if hasKey fields Rule.thresholdNames then marked
    else marked ++ [(.text "confidence_threshold", .int threshold)]

/-- Reads the fields of a rule. -/
def readRule (origin : Origin) (fields : List (Value × Value)) : Reading Rule :=
  Rule.ofEntries (origin.complete fields)

/-- The name by which a notice speaks of a rule, if it can be written. -/
def ruleName? (fields : List (Value × Value)) : Option String :=
  let candidates := ["rule_id", "ruleId"].filterMap (Value.find? fields)
  match candidates.find? (·.isTruthy) with
  | some v => v.display?
  | none => some "unknown"

/-- The notice about a rule that cannot be read. -/
def failureNotice? (origin : Origin) (fields : List (Value × Value)) (reason : String) :
    Option String :=
  (ruleName? fields).map fun name =>
    "Error parsing rule " ++ name ++ " in " ++ origin.source ++ ": " ++ reason

/-- Reads the entry at a position of the list; positions start at one. -/
def readEntry (origin : Origin) (position : Nat) : Value → Entry
  | .map fields =>
    match origin.readRule fields with
    | .ok rule => .ok rule
    | .invalid errors => .error (origin.failureNotice? fields (errorReport Rule.model errors))
    | .broken fault => .error (origin.failureNotice? fields fault.message)
  | _ => .error (some ("Skipping rule #" ++ integerText position ++ " in " ++ origin.source ++
      ": expected a mapping"))

/-- Reads the entries from a position on. -/
def readEntries (origin : Origin) : Nat → List Value → List Entry
  | _, [] => []
  | position, v :: rest => origin.readEntry position v :: readEntries origin (position + 1) rest

/-- The rules of a loaded document. -/
def readDocument (origin : Origin) (content : Value) : Except DocumentError Document :=
  let none := .ok ⟨[], ["No rules found in " ++ origin.source]⟩
  match content with
  | .map fields =>
    match Value.find? fields "rules" with
    | some (.list entries) => Document.ofEntries (origin.readEntries 1 entries)
    | some _ => .ok ⟨[], ["Rules key is not a list in " ++ origin.source]⟩
    | Option.none => none
  | _ => none

/-- Reads a document that was loaded, or refuses one that was not. -/
def readLoaded (origin : Origin) (loaded : Except Yaml.LoadError Value) :
    Except DocumentError Document :=
  match loaded with
  | .error cause => .error (.unloadable origin.source cause)
  | .ok content => origin.readDocument content

/-- Reads the text of a rules document. -/
def parse (origin : Origin) (text : String) : Except DocumentError Document :=
  origin.readLoaded (Yaml.load text)

/-- Reads a text on a stack of limited size. -/
def parseOn (origin : Origin) (stack : Yaml.Stack) (text : String) :
    Except DocumentError Document :=
  origin.readLoaded (Yaml.loadOn stack text)

end Origin

end EnrollmentDiagnosis.RuleBook
