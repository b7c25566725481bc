import EnrollmentDiagnosis.Number.Binary64
import EnrollmentDiagnosis.Time.Timestamp

set_option autoImplicit false

namespace EnrollmentDiagnosis

/-- A value of unknown shape. `cycle` stands for a collection inside itself. -/
inductive Value where
  | null
  | bool (b : Bool)
  | int (n : Int)
  | float (x : Number.Binary64)
  | text (s : String)
  | bytes (b : List Nat)
  | date (d : Time.Date)
  | time (t : Time.Timestamp)
  | list (items : List Value)
  | tuple (items : List Value)
  | set (items : List Value)
  | map (entries : List (Value × Value))
  | cycle (ofMap : Bool)
  deriving Inhabited

namespace Value

/-- A mapping from texts. -/
def record (entries : List (String × Value)) : Value :=
  .map (entries.map fun (k, v) => (.text k, v))

/-- The value of the first entry whose key is the given text. -/
def find? (entries : List (Value × Value)) (key : String) : Option Value :=
  match entries with
  | [] => none
  | (.text k, v) :: rest => if k = key then some v else find? rest key
  | _ :: rest => find? rest key

/-- False for null, false, zero, and empty texts and collections. -/
def isTruthy : Value → Bool
  | null => false
  | bool b => b
  | int n => n != 0
  | float x => !x.isZero
  | text s => s != ""
  | bytes b => !b.isEmpty
  | list items => !items.isEmpty
  | tuple items => !items.isEmpty
  | set items => !items.isEmpty
  | map entries => !entries.isEmpty
  | date _ => true
  | time _ => true
  | cycle _ => true

end Value

end EnrollmentDiagnosis
