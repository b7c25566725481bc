import EnrollmentDiagnosis.Proofs.RecordFields
import Mathlib.Data.List.Forall2

set_option autoImplicit false

namespace EnrollmentDiagnosis.Reading

variable {α β : Type}

/-- The reading without the places where its errors arose. -/
def unplaced : Reading α → Reading α
  | invalid errors => invalid (errors.map fun e => { e with location := [] })
  | ok a => ok a
  | broken fault => broken fault

/-- Two readings with the same result, or with the same complaints in the same order. -/
def Agrees (first second : Reading α) : Prop := first.unplaced = second.unplaced

theorem Agrees.refl (a : Reading α) : a.Agrees a := rfl

theorem Agrees.symm {first second : Reading α} (agrees : first.Agrees second) :
    second.Agrees first := Eq.symm agrees

theorem Agrees.trans {first second third : Reading α} (agrees : first.Agrees second)
    (next : second.Agrees third) : first.Agrees third := Eq.trans agrees next

theorem unplaced_eq_ok_iff (reading : Reading α) (a : α) :
    reading.unplaced = .ok a ↔ reading = .ok a := by
  cases reading with
  | ok b => exact Iff.rfl
  | invalid errors => constructor <;> (intro wrong; cases wrong)
  | broken fault => exact Iff.rfl

/-- Readings that agree succeed alike, with the same result. -/
theorem Agrees.ok_iff {first second : Reading α} (agrees : first.Agrees second) (a : α) :
    first = .ok a ↔ second = .ok a := by
  rw [← unplaced_eq_ok_iff first, ← unplaced_eq_ok_iff second, agrees]

theorem within_agrees (step : LocationStep) (a : Reading α) : (a.within step).Agrees a := by
  cases a with
  | invalid errors =>
    show invalid ((errors.map _).map _) = invalid (errors.map _)
    rw [List.map_map]
    rfl
  | ok a => rfl
  | broken fault => rfl

theorem unplaced_seq (f : Reading (α → β)) (a : Reading α) :
    (f <*> a).unplaced = f.unplaced <*> a.unplaced := by
  cases f with
  | ok f => cases a <;> rfl
  | broken fault => rfl
  | invalid errors =>
    cases a with
    | invalid more => exact congrArg invalid List.map_append
    | ok a => rfl
    | broken fault => rfl

theorem unplaced_map (f : α → β) (a : Reading α) :
    (f <$> a).unplaced = f <$> a.unplaced := by
  cases a <;> rfl

theorem Agrees.seq {f g : Reading (α → β)} {a b : Reading α} (functions : f.Agrees g)
    (arguments : a.Agrees b) : (f <*> a).Agrees (g <*> b) := by
  unfold Agrees at functions arguments ⊢
  rw [unplaced_seq, unplaced_seq, functions, arguments]

theorem Agrees.map (f : α → β) {a b : Reading α} (agrees : a.Agrees b) :
    (f <$> a).Agrees (f <$> b) := by
  unfold Agrees at agrees ⊢
  rw [unplaced_map, unplaced_map, agrees]

theorem Agrees.andThen {a b : Reading α} (agrees : a.Agrees b) (check : α → Reading β) :
    (a.andThen check).Agrees (b.andThen check) := by
  have erased (reading : Reading α) : (reading.andThen check).unplaced =
      reading.unplaced.andThen fun a => (check a).unplaced := by
    cases reading <;> rfl
  unfold Agrees at agrees ⊢
  rw [erased, erased, agrees]

section Lists

variable {read : Value → Reading α} {vs ws : List Value}

theorem items_agrees (agrees : List.Forall₂ (fun v w => (read v).Agrees (read w)) vs ws) (n : Nat) :
    (items read n vs).Agrees (items read n ws) := by
  induction agrees generalizing n with
  | nil => exact Agrees.refl _
  | cons first _ ih =>
    have placed := ((within_agrees (.index n) _).trans first).trans
      (within_agrees (.index n) _).symm
    show Agrees (List.cons <$> (read _).within _ <*> _) (List.cons <$> (read _).within _ <*> _)
    exact (placed.map List.cons).seq (ih (n + 1))

theorem list_agrees (agrees : List.Forall₂ (fun v w => (read v).Agrees (read w)) vs ws) :
    (list read (.list vs)).Agrees (list read (.list ws)) := items_agrees agrees 0

end Lists

section Fields

variable {entries others : List (Value × Value)} {names : List String}

/-- The value under the first of the names that is a key. -/
def found? (entries : List (Value × Value)) (names : List String) : Option Value :=
  (lookup entries names).map Prod.snd

theorem found?_cons (entries : List (Value × Value)) (name : String) (names : List String) :
    found? entries (name :: names) = (Value.find? entries name).or (found? entries names) := by
  simp only [found?, lookup]
  cases Value.find? entries name with
  | none => rw [Option.none_or]
  | some v => rfl

theorem found?_congr (same : ∀ name ∈ names, Value.find? entries name = Value.find? others name) :
    found? entries names = found? others names :=
  congrArg (Option.map Prod.snd) (lookup_congr same)

/-- What is found in two records is related when it is under every name. -/
theorem found?_rel {related : Value → Value → Prop}
    (rel : ∀ name ∈ names,
      Option.Rel related (Value.find? entries name) (Value.find? others name)) :
    Option.Rel related (found? entries names) (found? others names) := by
  induction names with
  | nil => exact .none
  | cons name rest ih =>
    rw [found?_cons, found?_cons]
    have here := rel name List.mem_cons_self
    have later := ih fun other member => rel other (List.mem_cons_of_mem name member)
    generalize Value.find? entries name = v at here ⊢
    generalize Value.find? others name = w at here ⊢
    cases here with
    | none => exact later
    | some same => exact .some same

/-- A field agrees with another one when what is found for both is read alike. -/
theorem field_agrees {read : Value → Reading α}
    (rel : Option.Rel (fun v w => (read v).Agrees (read w)) (found? entries names)
      (found? others names)) (absent : Option α) :
    (field entries names absent read).Agrees (field others names absent read) := by
  unfold found? at rel
  unfold field
  generalize lookup entries names = first at rel ⊢
  generalize lookup others names = second at rel ⊢
  cases first with
  | none =>
    cases second with
    | none => exact Agrees.refl _
    | some entry => cases rel
  | some entry =>
    cases second with
    | none => cases rel
    | some other =>
      cases rel with
      | some same => exact ((within_agrees _ _).trans same).trans (within_agrees _ _).symm

theorem field_agrees_of_found (same : found? entries names = found? others names)
    (absent : Option α) (read : Value → Reading α) :
    (field entries names absent read).Agrees (field others names absent read) := by
  refine field_agrees ?_ absent
  rw [same]
  cases found? others names with
  | none => exact .none
  | some v => exact .some (Agrees.refl _)

end Fields

end EnrollmentDiagnosis.Reading
