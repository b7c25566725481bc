set_option autoImplicit false

namespace EnrollmentDiagnosis

/-- Entries, each name once. -/
abbrev Entries (α : Type) := List (String × α)

namespace Entries

variable {α : Type}

def names (entries : Entries α) : List String := entries.map Prod.fst

/-- Sets an entry, which keeps its place if its name has one. -/
def put (entries : Entries α) (name : String) (a : α) : Entries α :=
  match entries with
  | [] => [(name, a)]
  | (n, old) :: rest => if n = name then (n, a) :: rest else (n, old) :: put rest name a

/-- Sets all entries of the second list in turn. -/
def putAll (entries more : Entries α) : Entries α :=
  more.foldl (fun entries (name, a) => entries.put name a) entries

end Entries

end EnrollmentDiagnosis
