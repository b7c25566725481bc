import EnrollmentDiagnosis.Pattern.Category
import EnrollmentDiagnosis.Pattern.Script
import EnrollmentDiagnosis.Text.Blank

set_option autoImplicit false

namespace EnrollmentDiagnosis.Pattern

/-- A set of general categories under a common letter. -/
inductive CategoryGroup where
  | letter
  | casedLetter
  | mark
  | number
  | punctuation
  | symbol
  | separator
  | other
  deriving DecidableEq, Inhabited

/-- A property of a character. -/
inductive Property where
  | any
  | ascii
  | assigned
  | category (c : Category)
  | group (g : CategoryGroup)
  | script (s : Script)
  | alphabetic
  | alphanumeric
  | uppercase
  | lowercase
  | whiteSpace
  | blank
  | graph
  | print
  | word
  | hexadecimal
  | asciiDigit
  | asciiHexadecimal
  | posixAlphanumeric
  | asciiWord
  | asciiSpace
  | posixPunctuation
  deriving DecidableEq, Inhabited

/-- Small letters by use that are not so by category. -/
def otherLowercase : List (Nat × Nat) := [
  (0xAA, 0xAA), (0xBA, 0xBA), (0x2B0, 0x2B8), (0x2C0, 0x2C1), (0x2E0, 0x2E4), (0x345, 0x345),
  (0x37A, 0x37A), (0x1D2C, 0x1D6A), (0x1D78, 0x1D78), (0x1D9B, 0x1DBF), (0x2071, 0x2071),
  (0x207F, 0x207F),
  (0x2090, 0x209C), (0x2170, 0x217F), (0x24D0, 0x24E9), (0x2C7C, 0x2C7D), (0xA69C, 0xA69D),
  (0xA770, 0xA770),
  (0xA7F8, 0xA7F9), (0xAB5C, 0xAB5F), (0x10780, 0x10780), (0x10783, 0x10785), (0x10787, 0x107B0),
  (0x107B2, 0x107BA)]

/-- Capital letters by use that are not so by category. -/
def otherUppercase : List (Nat × Nat) := [
  (0x2160, 0x216F), (0x24B6, 0x24CF), (0x1F130, 0x1F149), (0x1F150, 0x1F169), (0x1F170, 0x1F189)]

def CategoryGroup.holds : CategoryGroup → Category → Bool
  | letter, c => [.lu, .ll, .lt, .lm, .lo].contains c
  | casedLetter, c => [.lu, .ll, .lt].contains c
  | mark, c => [.mn, .mc, .me].contains c
  | number, c => [.nd, .nl, .no].contains c
  | punctuation, c => [.pc, .pd, .ps, .pe, .pi, .pf, .po].contains c
  | symbol, c => [.sm, .sc, .sk, .so].contains c
  | separator, c => [.zs, .zl, .zp].contains c
  | other, c => [.cc, .cf, .cs, .co, .cn].contains c

namespace Property

def isUppercase (code : Nat) : Bool := categoryOf code == .lu || Text.inRanges otherUppercase code

def isLowercase (code : Nat) : Bool := categoryOf code == .ll || Text.inRanges otherLowercase code

def isAlphabetic (code : Nat) : Bool :=
  let c := categoryOf code
  CategoryGroup.letter.holds c || c == .nl || isUppercase code || isLowercase code

def isWhiteSpace (code : Nat) : Bool := Text.inRanges Text.whiteSpaceRanges code

def isAsciiDigit (code : Nat) : Bool := 0x30 ≤ code && code ≤ 0x39

def isAsciiLetter (code : Nat) : Bool :=
  (0x41 ≤ code && code ≤ 0x5A) || (0x61 ≤ code && code ≤ 0x7A)

def isAsciiHexadecimal (code : Nat) : Bool :=
  isAsciiDigit code || (0x41 ≤ code && code ≤ 0x46) || (0x61 ≤ code && code ≤ 0x66)

def isAsciiWord (code : Nat) : Bool := isAsciiDigit code || isAsciiLetter code || code == 0x5F

/-- Letters, marks, decimal digits, connectors and joiners. -/
def isWord (code : Nat) : Bool :=
  if code < 0x80 then isAsciiWord code
  else
    let c := categoryOf code
    isAlphabetic code || CategoryGroup.mark.holds c || c == .nd || c == .pc ||
      code == 0x200C || code == 0x200D

def isGraph (code : Nat) : Bool :=
  !isWhiteSpace code && !([Category.cc, .cs, .cn].contains (categoryOf code))

def isBlank (code : Nat) : Bool := code == 0x9 || categoryOf code == .zs

/-- True for the characters with a property. -/
def holds (p : Property) (code : Nat) : Bool :=
  match p with
  | any => true
  | ascii => code < 0x80
  | assigned => categoryOf code != .cn
  | .category c => categoryOf code == c
  | group g => g.holds (categoryOf code)
  | script s => Text.inRanges s.ranges code
  | alphabetic => isAlphabetic code
  | alphanumeric => isAlphabetic code || categoryOf code == .nd
  | uppercase => isUppercase code
  | lowercase => isLowercase code
  | whiteSpace => isWhiteSpace code
  | blank => isBlank code
  | graph => isGraph code
  | print => (isGraph code || isBlank code) && categoryOf code != .cc
  | word => isWord code
  | hexadecimal => categoryOf code == .nd || isAsciiHexadecimal code ||
      (0xFF21 ≤ code && code ≤ 0xFF26) || (0xFF41 ≤ code && code ≤ 0xFF46)
  | asciiDigit => isAsciiDigit code
  | asciiHexadecimal => isAsciiHexadecimal code
  | posixAlphanumeric => isAlphabetic code || isAsciiDigit code
  | asciiWord => isAsciiWord code
  | asciiSpace => code == 0x20 || (0x9 ≤ code && code ≤ 0xD)
  | posixPunctuation => CategoryGroup.punctuation.holds (categoryOf code) ||
      (CategoryGroup.symbol.holds (categoryOf code) && !isAlphabetic code)

/-- True for the characters with a property when case makes no difference: the cased categories
count as one, and so do capital and small letters. -/
def holdsCaseless (p : Property) (code : Nat) : Bool :=
  match p with
  | .category .lu | .category .ll | .category .lt =>
    CategoryGroup.casedLetter.holds (categoryOf code)
  | uppercase | lowercase => isUppercase code || isLowercase code || categoryOf code == .lt
  | p => p.holds code

/-- Short and long names of the general categories, in capitals and without separators. -/
def categoryNames : List (String × Category) := [
  ("LU", .lu), ("UPPERCASELETTER", .lu), ("LL", .ll), ("LOWERCASELETTER", .ll),
  ("LT", .lt), ("TITLECASELETTER", .lt), ("LM", .lm), ("MODIFIERLETTER", .lm),
  ("LO", .lo), ("OTHERLETTER", .lo), ("MN", .mn), ("NONSPACINGMARK", .mn),
  ("MC", .mc), ("SPACINGMARK", .mc), ("ME", .me), ("ENCLOSINGMARK", .me),
  ("ND", .nd), ("DECIMALNUMBER", .nd), ("DIGIT", .nd), ("NL", .nl), ("LETTERNUMBER", .nl),
  ("NO", .no), ("OTHERNUMBER", .no), ("PC", .pc), ("CONNECTORPUNCTUATION", .pc),
  ("PD", .pd), ("DASHPUNCTUATION", .pd), ("PS", .ps), ("OPENPUNCTUATION", .ps),
  ("PE", .pe), ("CLOSEPUNCTUATION", .pe), ("PI", .pi), ("INITIALPUNCTUATION", .pi),
  ("PF", .pf), ("FINALPUNCTUATION", .pf), ("PO", .po), ("OTHERPUNCTUATION", .po),
  ("SM", .sm), ("MATHSYMBOL", .sm), ("SC", .sc), ("CURRENCYSYMBOL", .sc),
  ("SK", .sk), ("MODIFIERSYMBOL", .sk), ("SO", .so), ("OTHERSYMBOL", .so),
  ("ZS", .zs), ("SPACESEPARATOR", .zs), ("ZL", .zl), ("LINESEPARATOR", .zl),
  ("ZP", .zp), ("PARAGRAPHSEPARATOR", .zp), ("CC", .cc), ("CONTROL", .cc), ("CNTRL", .cc),
  ("CF", .cf), ("FORMAT", .cf), ("CS", .cs), ("SURROGATE", .cs), ("CO", .co), ("PRIVATEUSE", .co),
  ("CN", .cn), ("UNASSIGNED", .cn)]

def groupNames : List (String × CategoryGroup) := [
  ("L", .letter), ("L&", .casedLetter), ("LETTER", .letter), ("LC", .casedLetter),
  ("CASEDLETTER", .casedLetter),
  ("M", .mark), ("MARK", .mark), ("COMBININGMARK", .mark), ("N", .number), ("NUMBER", .number),
  ("P", .punctuation), ("PUNCTUATION", .punctuation), ("PUNCT", .punctuation),
  ("S", .symbol), ("SYMBOL", .symbol), ("Z", .separator), ("SEPARATOR", .separator),
  ("C", .other), ("OTHER", .other)]

def plainNames : List (String × Property) := [
  ("ANY", any), ("ASCII", ascii), ("ASSIGNED", assigned), ("ALPHABETIC", alphabetic),
  ("ALPHA", alphabetic),
  ("ALNUM", alphanumeric), ("UPPERCASE", uppercase), ("UPPER", uppercase), ("LOWERCASE", lowercase),
  ("LOWER", lowercase), ("WHITESPACE", whiteSpace), ("WSPACE", whiteSpace), ("SPACE", whiteSpace),
  ("BLANK", blank), ("GRAPH", graph), ("PRINT", print), ("WORD", word), ("XDIGIT", hexadecimal),
  ("POSIXDIGIT", asciiDigit), ("POSIXXDIGIT", asciiHexadecimal), ("AHEX", asciiHexadecimal),
  ("ASCIIHEXDIGIT", asciiHexadecimal), ("POSIXALNUM", posixAlphanumeric),
  ("POSIXPUNCT", posixPunctuation)]

def ofCategoryName? (name : String) : Option Property :=
  match categoryNames.lookup name with
  | some c => some (.category c)
  | none => (groupNames.lookup name).map group

def ofScriptName? (name : String) : Option Property :=
  (Script.all.find? fun s => s.name == name || s.code == name).map script

/-- A property's name in capitals, without spaces, hyphens, underscores and points. -/
def standardName (name : List Char) : String :=
  String.ofList ((name.filter fun c => !([' ', '-', '_', '.'].contains c)).map Char.toUpper)

/-- What follows `IS` at the start of a name. -/
def afterIs? (name : String) : Option String :=
  match name.toList with
  | 'I' :: 'S' :: rest => some (String.ofList rest)
  | _ => none

/-- The property with a name in standard form: a category, a script, or one of its own, where the
last two may follow `IS`. -/
def ofName? (name : String) : Option Property :=
  let direct (name : String) := (ofScriptName? name).or (plainNames.lookup name)
  (ofCategoryName? name).or ((direct name).or ((afterIs? name).bind direct))

/-- The property whose value is named together with the kind of property it belongs to. -/
def ofQualifiedName? (kind name : String) : Option Property :=
  if ["GC", "GENERALCATEGORY"].contains kind then
    if name = "ASSIGNED" then some assigned else ofCategoryName? name
  else if ["SC", "SCRIPT"].contains kind then ofScriptName? name
  else none

end Property

end EnrollmentDiagnosis.Pattern
