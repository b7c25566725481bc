set_option autoImplicit false

namespace EnrollmentDiagnosis.RuleBook

/-- A path from a root, or from the working directory if the root is empty. -/
structure Path where
  root : String
  parts : List String
  deriving DecidableEq, Inhabited

namespace Path

/-- The root at the start of a path: exactly two separators are a root of their own. -/
def rootOf (s : List Char) : String :=
  match (s.takeWhile (· == '/')).length with
  | 0 => ""
  | 2 => "//"
  | _ => "/"

/-- Reads a path; parts that are empty or a single point are dropped. -/
def ofText (s : String) : Path :=
  ⟨rootOf s.toList, (s.splitOn "/").filter fun part => part != "" && part != "."⟩

/-- The path in writing; a single point for the working directory. -/
def text (path : Path) : String :=
  match path.root, path.parts with
  | "", [] => "."
  | root, parts => root ++ String.intercalate "/" parts

/-- Parts after which none leads back to the one above it. The parts so far are given in reverse. -/
def climb : List String → List String → List String
  | above, [] => above.reverse
  | name :: above, ".." :: rest =>
    if name = ".." then climb (".." :: ".." :: above) rest else climb above rest
  | above, part :: rest => climb (part :: above) rest

/-- The path without steps that lead back. -/
def resolved (path : Path) : Path := ⟨path.root, climb [] path.parts⟩

end Path

/-- The texts of files by resolved path, each path once. -/
abbrev Files := List (Path × String)

namespace Files

def read? (files : Files) (path : Path) : Option String := List.lookup path.resolved files

def delete (files : Files) (path : Path) : Files := files.filter fun file => file.1 != path.resolved

def write (files : Files) (path : Path) (text : String) : Files :=
  (path.resolved, text) :: delete files path

end Files

end EnrollmentDiagnosis.RuleBook
