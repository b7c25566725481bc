import EnrollmentDiagnosis.Proofs.DocumentEntries
import EnrollmentDiagnosis.Proofs.LoadingErrors
import EnrollmentDiagnosis.RuleBook.Validation

set_option autoImplicit false

namespace EnrollmentDiagnosis

namespace RuleBook

namespace Verdict

theorem ofEntries?_ne_malformed (position : Nat) (seen : List String) (entries : List Value) :
    ofEntries? position seen entries ≠ some malformed := by
  induction entries generalizing position seen with
  | nil => simp [ofEntries?]
  | cons entry rest ih =>
    unfold ofEntries?
    split
    · simp
    · simp
    · split
      · simp
      · split
        · exact ih _ _
        · simp

/-- Nothing that is loaded is found malformed. -/
theorem ofContent_ne_malformed (content : Value) : ofContent content ≠ malformed := by
  unfold ofContent
  split
  · split
    · simp
    · simp
    · rename_i entries _ _
      cases found : ofEntries? 1 [] entries with
      | none => simp
      | some verdict =>
        rintro rfl
        exact ofEntries?_ne_malformed 1 [] entries found
    · simp
  · simp

end Verdict

namespace Verdict

variable {loaded : Except Yaml.LoadError Value}

theorem ofLoaded_eq_error_iff {e : Yaml.LoadError} :
    ofLoaded loaded = .error e ↔ loaded = .error e ∧ e ≠ .malformed := by
  unfold ofLoaded
  split
  · simp only [reduceCtorEq, Except.error.injEq, false_iff, not_and, not_not]
    exact Eq.symm
  · rename_i cause other
    simp only [Except.error.injEq]
    exact ⟨fun same => ⟨same, same ▸ other⟩, And.left⟩
  · simp only [reduceCtorEq, false_and]

end Verdict

variable {origin : Origin}

theorem Document.unwritable_of_ofEntries_error {entries : List Entry} {e : DocumentError}
    (refused : ofEntries entries = .error e) : ∃ notices, e = .unwritable notices := by
  induction entries generalizing e with
  | nil => cases refused
  | cons entry rest ih =>
    rcases entry with (_ | notice) | rule
    · exact ⟨[], (Except.error.inj refused).symm⟩
    · rw [ofEntries] at refused
      split at refused
      · cases refused
      · exact ⟨_, (Except.error.inj refused).symm⟩
    · rw [ofEntries] at refused
      cases later : ofEntries rest with
      | ok document =>
        rw [later] at refused
        cases refused
      | error e' =>
        rw [later] at refused
        cases refused
        exact ih later

namespace Origin

/-- What has been loaded is refused for entries that no notice can tell. -/
theorem unreportable_of_readDocument_error {content : Value} {e : DocumentError}
    (refused : origin.readDocument content = .error e) :
    (∃ notices, e = .unwritable notices) ∧
      ∃ fields entries, content = .map fields ∧
        Value.find? fields "rules" = some (.list entries) ∧
        ∃ entry ∈ entries, origin.IsUnreportable entry := by
  have given := refused
  unfold readDocument at refused
  split at refused
  · rename_i fields
    split at refused
    · rename_i entries listed
      refine ⟨Document.unwritable_of_ofEntries_error refused, fields, entries, rfl, listed, ?_⟩
      by_contra reportable
      push Not at reportable
      obtain ⟨document, read⟩ := (readDocument_accepted_iff listed).mpr reportable
      cases given.symm.trans read
    · cases refused
    · cases refused
  · cases refused

end Origin

/-- Validation answers every text with a verdict unless the text is unfit. A text is read as a
document, refused as malformed -- in the cases in which validation finds it malformed --, or refused
without being reported as such: then it is unfit, as validation finds it too, or one of its entries
is a broken rule that no notice can tell. How large the stack is decides only which texts are nested
too deeply. -/
theorem every_text_answered (stack : Yaml.Stack) (origin : Origin) (text : String) :
    ((∃ verdict, validateOn stack text = .ok verdict) ∨
        ∃ e, validateOn stack text = .error e ∧ Yaml.Unfit stack text e) ∧
      ((∃ document, origin.parseOn stack text = .ok document) ∨
        (origin.parseOn stack text = .error (.unloadable origin.source .malformed) ∧
          validateOn stack text = .ok .malformed) ∨
        (∃ e, origin.parseOn stack text = .error (.unloadable origin.source e) ∧
          validateOn stack text = .error e ∧ Yaml.Unfit stack text e) ∨
        ∃ notices fields entries, origin.parseOn stack text = .error (.unwritable notices) ∧
          Yaml.loadOn stack text = .ok (.map fields) ∧
          Value.find? fields "rules" = some (.list entries) ∧
          ∃ entry ∈ entries, origin.IsUnreportable entry) := by
  unfold validateOn Origin.parseOn
  cases loaded : Yaml.loadOn stack text with
  | error e =>
    have parsed : origin.readLoaded (.error e) = .error (.unloadable origin.source e) := rfl
    by_cases malformed : e = .malformed
    · subst malformed
      exact ⟨.inl ⟨_, rfl⟩, .inr (.inl ⟨parsed, rfl⟩)⟩
    · have unfit := Yaml.unfit_of_loadOn_error loaded malformed
      have failed : Verdict.ofLoaded (.error e) = .error e :=
        Verdict.ofLoaded_eq_error_iff.mpr ⟨rfl, malformed⟩
      exact ⟨.inr ⟨e, failed, unfit⟩, .inr (.inr (.inl ⟨e, parsed, failed, unfit⟩))⟩
  | ok content =>
    refine ⟨.inl ⟨Verdict.ofContent content, rfl⟩, ?_⟩
    unfold Origin.readLoaded
    dsimp only
    cases read : origin.readDocument content with
    | ok document => exact .inl ⟨document, rfl⟩
    | error e =>
      obtain ⟨⟨notices, rfl⟩, fields, entries, rfl, listed, unreportable⟩ :=
        Origin.unreportable_of_readDocument_error read
      exact .inr (.inr (.inr ⟨notices, fields, entries, rfl, rfl, listed, unreportable⟩))

/-- A text that has the form of a date, in a month that there is not. -/
def thirteenthMonth : String := "2024-13-45"

theorem load_thirteenthMonth : Yaml.load thirteenthMonth = .error (.time .month) := rfl

/-- Not every text has a verdict, and not every text is read or refused as malformed. -/
theorem impossible_date_unreported :
    (¬∀ text, ∃ verdict, validate text = .ok verdict) ∧
      ¬∀ (origin : Origin) (text : String), (∃ document, origin.parse text = .ok document) ∨
        origin.parse text = .error (.unloadable origin.source .malformed) := by
  constructor
  · intro always
    obtain ⟨verdict, found⟩ := always thirteenthMonth
    rw [validate, load_thirteenthMonth] at found
    cases found
  · intro always
    rcases always default thirteenthMonth with ⟨document, read⟩ | refused
    · rw [Origin.parse, load_thirteenthMonth] at read
      cases read
    · rw [Origin.parse, load_thirteenthMonth] at refused
      cases refused

/-- A mapping that is tagged as a time, with a date that stands for it. -/
example : (Yaml.load "!!timestamp \x7b=: 2001-01-01\x7d").toOption.isSome = false := by
  decide +kernel

end RuleBook

end EnrollmentDiagnosis
