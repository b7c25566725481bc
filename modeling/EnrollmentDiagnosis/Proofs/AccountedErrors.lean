import Mathlib.Data.List.Basic

set_option autoImplicit false

namespace EnrollmentDiagnosis

/-- A computation gives an answer, unless it ends with an error that is accounted for. -/
def Answers {ε α : Type} (accounted : ε → Prop) (x : Except ε α) (answer : α) : Prop :=
  match x with
  | .ok a => a = answer
  | .error e => accounted e

namespace Answers

variable {ε α β : Type} {accounted : ε → Prop} {x : Except ε α} {a : α}

theorem ok (accounted : ε → Prop) (a : α) : Answers accounted (.ok a) a := rfl

theorem eq_of_ok (answers : Answers accounted x a) {b : α} (returned : x = .ok b) : b = a := by
  rw [returned] at answers
  exact answers

theorem accounted_of_error (answers : Answers accounted x a) {e : ε} (failed : x = .error e) :
    accounted e := by
  rw [failed] at answers
  exact answers

theorem eq_ok_or_error (answers : Answers accounted x a) :
    x = .ok a ∨ ∃ e, x = .error e ∧ accounted e := by
  cases x with
  | ok b => exact .inl (congrArg Except.ok answers)
  | error e => exact .inr ⟨e, rfl, answers⟩

theorem eq_ok (answers : Answers accounted x a) (never : ∀ e, ¬accounted e) : x = .ok a := by
  rcases answers.eq_ok_or_error with returned | ⟨e, -, expected⟩
  · exact returned
  · exact absurd expected (never e)

theorem bind {f : α → Except ε β} {b : β} (answers : Answers accounted x a)
    (next : Answers accounted (f a) b) : Answers accounted (x >>= f) b := by
  cases x with
  | ok found =>
    cases answers
    exact next
  | error e => exact answers

theorem map (answers : Answers accounted x a) (f : α → β) : Answers accounted (x.map f) (f a) := by
  cases x with
  | ok found => exact congrArg f answers
  | error e => exact answers

section Searches

variable {l : List α}

theorem findSomeM? {look : α → Except ε (Option β)} {found : α → Option β}
    (each : ∀ a ∈ l, Answers accounted (look a) (found a)) :
    Answers accounted (l.findSomeM? look) (l.findSome? found) := by
  induction l with
  | nil => exact ok accounted none
  | cons a rest ih =>
    obtain ⟨here, others⟩ := List.forall_mem_cons.mp each
    refine here.bind ?_
    cases verdict : found a with
    | some b =>
      rw [List.findSome?_cons_of_isSome (by rw [verdict]; rfl), verdict]
      exact ok accounted (some b)
    | none =>
      rw [List.findSome?_cons_of_isNone (by rw [verdict]; rfl)]
      exact ih others

variable {check : α → Except ε Bool} {test : α → Bool}

theorem findM? (each : ∀ a ∈ l, Answers accounted (check a) (test a)) :
    Answers accounted (l.findM? check) (l.find? test) := by
  induction l with
  | nil => exact ok accounted none
  | cons a rest ih =>
    obtain ⟨here, others⟩ := List.forall_mem_cons.mp each
    refine here.bind ?_
    cases verdict : test a with
    | true =>
      rw [List.find?_cons_of_pos verdict]
      exact ok accounted (some a)
    | false =>
      rw [List.find?_cons_of_neg (by simp [verdict])]
      exact ih others

/-- The search gathers what it keeps in front of what it has kept before, last things first. -/
theorem filterAuxM (each : ∀ a ∈ l, Answers accounted (check a) (test a)) (kept : List α) :
    Answers accounted (l.filterAuxM check kept) ((l.filter test).reverse ++ kept) := by
  induction l generalizing kept with
  | nil => exact ok accounted kept
  | cons a rest ih =>
    obtain ⟨here, others⟩ := List.forall_mem_cons.mp each
    refine here.bind ?_
    cases verdict : test a with
    | true =>
      rw [List.filter_cons_of_pos verdict, List.reverse_cons, List.append_assoc]
      exact ih others (a :: kept)
    | false =>
      rw [List.filter_cons_of_neg (by simp [verdict])]
      exact ih others kept

theorem filterM (each : ∀ a ∈ l, Answers accounted (check a) (test a)) :
    Answers accounted (l.filterM check) (l.filter test) := by
  have gathered := (filterAuxM each []).map List.reverse
  rw [List.append_nil, List.reverse_reverse] at gathered
  exact gathered

end Searches

end Answers

end EnrollmentDiagnosis
