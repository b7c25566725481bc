import EnrollmentDiagnosis.Number.Shortest
import EnrollmentDiagnosis.Text.Printable

set_option autoImplicit false

namespace EnrollmentDiagnosis.Text

/-- Double quotes around text that holds single quotes and no double quote, otherwise single
ones. -/
def quoteFor (s : List Char) : Char :=
  if s.contains '\'' && !s.contains '"' then '"' else '\''

/-- A code point in lowercase hexadecimal of at least the given width. -/
def hexadecimal (width code : Nat) : List Char := Number.padded width (Nat.toDigits 16 code)

/-- A character between the given quotes. -/
def escaped (quote c : Char) : List Char :=
  if c = quote ∨ c = '\\' then ['\\', c]
  else if c = '\n' then ['\\', 'n']
  else if c = '\r' then ['\\', 'r']
  else if c = '\t' then ['\\', 't']
  else if isPrintable c then [c]
  else if c.toNat < 0x100 then '\\' :: 'x' :: hexadecimal 2 c.toNat
  else if c.toNat < 0x10000 then '\\' :: 'u' :: hexadecimal 4 c.toNat
  else '\\' :: 'U' :: hexadecimal 8 c.toNat

/-- A text in quotes. -/
def quoted (s : String) : String :=
  let quote := quoteFor s.toList
  String.ofList (quote :: s.toList.flatMap (escaped quote) ++ [quote])

end EnrollmentDiagnosis.Text
