import EnrollmentDiagnosis.Text.Folding

set_option autoImplicit false

namespace EnrollmentDiagnosis.Pattern

/-- Capital letters whose full folding has several characters, with the small letter that each of
them stands for alone. -/
def singleFoldingRuns : List Text.CaseRun := [
  ⟨0x1E9E, 0x1E9E, 1, -7615⟩, ⟨0x1F88, 0x1F8F, 1, -8⟩, ⟨0x1F98, 0x1F9F, 1, -8⟩,
  ⟨0x1FA8, 0x1FAF, 1, -8⟩, ⟨0x1FBC, 0x1FBC, 1, -9⟩, ⟨0x1FCC, 0x1FCC, 1, -9⟩,
  ⟨0x1FFC, 0x1FFC, 1, -9⟩]

/-- The small letter that a code point stands for. -/
def singleFold (code : Nat) : Nat :=
  match Text.CaseRun.image? Text.foldingRuns code with
  | some image => image
  | none => (Text.CaseRun.image? singleFoldingRuns code).getD code

/-- The code point of a run that maps to the target. -/
def sourceIn? (target : Nat) (run : Text.CaseRun) : Option Nat :=
  let source := (target : Int) - run.shift
  if (run.first : Int) ≤ source ∧ source ≤ run.last ∧ (source.toNat - run.first) % run.step = 0 then
    some source.toNat
  else none

/-- Pairs of the letter i with and without a dot that count as variants in either direction. -/
def dottedVariants (code : Nat) : List Nat :=
  if code = 0x49 then [0x69, 0x131]
  else if code = 0x69 then [0x49, 0x130]
  else if code = 0x130 then [0x69]
  else if code = 0x131 then [0x49]
  else []

/-- All code points that are the same letter as the given one, which comes first. -/
def variants (code : Nat) : List Nat :=
  let target := singleFold code
  let sources := (Text.foldingRuns ++ singleFoldingRuns).filterMap (sourceIn? target)
  code :: (target :: sources ++ dottedVariants code).filter (· != code)

/-- True when two code points are the same letter in some case. -/
def sameLetter (a b : Nat) : Bool :=
  a == b || singleFold a == singleFold b || (dottedVariants a).contains b

end EnrollmentDiagnosis.Pattern
