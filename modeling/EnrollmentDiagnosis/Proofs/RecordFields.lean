import EnrollmentDiagnosis.Reading

set_option autoImplicit false

namespace EnrollmentDiagnosis

namespace Value

theorem find?_cons_here (key : String) (v : Value) (rest : List (Value × Value)) :
    find? ((.text key, v) :: rest) key = some v := by
  unfold find?
  exact if_pos rfl

theorem find?_cons_other {entry : Value × Value} {key : String} (other : entry.1 ≠ .text key)
    (rest : List (Value × Value)) : find? (entry :: rest) key = find? rest key := by
  rw [find?.eq_def]
  split
  · rename_i empty
    cases empty
  · rename_i name v _ same
    obtain ⟨rfl, rfl⟩ := List.cons.inj same
    refine if_neg fun equal => other ?_
    rw [equal]
  · rename_i same
    obtain ⟨rfl, rfl⟩ := List.cons.inj same
    rfl

theorem find?_append (first second : List (Value × Value)) (key : String) :
    find? (first ++ second) key = (find? first key).or (find? second key) := by
  induction first with
  | nil => rfl
  | cons entry rest ih =>
    obtain ⟨name, v⟩ := entry
    by_cases here : name = .text key
    · subst here
      rw [List.cons_append, find?_cons_here, find?_cons_here, Option.some_or]
    · rw [List.cons_append, find?_cons_other here, find?_cons_other here, ih]

/-- It does not matter whether an entry with another key is kept. -/
theorem find?_filter_cons_other {entry : Value × Value} {key : String}
    (other : entry.1 ≠ .text key) (keep : Value × Value → Bool) (rest : List (Value × Value)) :
    find? ((entry :: rest).filter keep) key = find? (rest.filter keep) key := by
  rw [List.filter_cons]
  split
  · rw [find?_cons_other other]
  · rfl

end Value

namespace Reading

variable {α β : Type}

theorem parts_of_seq {f : Reading (α → β)} {a : Reading α} {b : β} (read : f <*> a = .ok b) :
    ∃ g x, f = .ok g ∧ a = .ok x ∧ g x = b := by
  cases f <;> cases a <;> cases read
  exact ⟨_, _, rfl, rfl, rfl⟩

theorem part_of_map {f : α → β} {a : Reading α} {b : β} (read : f <$> a = .ok b) :
    ∃ x, a = .ok x ∧ f x = b := by
  cases a <;> cases read
  exact ⟨_, rfl, rfl⟩

theorem field_congr {entries others : List (Value × Value)} {names : List String}
    (same : lookup entries names = lookup others names) (absent : Option α)
    (read : Value → Reading α) :
    field entries names absent read = field others names absent read := by
  simp only [field, same]

theorem lookup_congr {entries others : List (Value × Value)} {names : List String}
    (same : ∀ name ∈ names, Value.find? entries name = Value.find? others name) :
    lookup entries names = lookup others names := by
  induction names with
  | nil => rfl
  | cons name rest ih =>
    simp only [lookup, same name List.mem_cons_self,
      ih fun other member => same other (List.mem_cons_of_mem name member)]

theorem integerWithin_eq_ok_iff {least most n : Int} {v : Value} :
    integerWithin least most v = .ok n ↔ integer v = .ok n ∧ least ≤ n ∧ n ≤ most := by
  unfold integerWithin
  constructor
  · intro read
    cases number : integer v with
    | ok m =>
      rw [number, andThen] at read
      split at read
      · cases read
      · split at read
        · cases read
        · have same : m = n := Reading.ok.inj read
          subst same
          exact ⟨rfl, by omega, by omega⟩
    | invalid errors =>
      rw [number] at read
      cases read
    | broken fault =>
      rw [number] at read
      cases read
  · rintro ⟨number, low, high⟩
    rw [number, andThen, if_neg (by omega), if_neg (by omega)]

theorem integerWithin_int {least most n : Int} (low : least ≤ n) (high : n ≤ most) :
    integerWithin least most (.int n) = .ok n :=
  integerWithin_eq_ok_iff.mpr ⟨rfl, low, high⟩

theorem within_eq_ok_iff {step : LocationStep} {a : Reading α} {x : α} :
    a.within step = .ok x ↔ a = .ok x := by
  cases a with
  | ok y => exact Iff.rfl
  | invalid errors => constructor <;> (intro wrong; cases wrong)
  | broken fault => exact Iff.rfl

/-- A field is read from the value that its first name finds. -/
theorem field_of_find? {entries : List (Value × Value)} {name : String} {v : Value} {a : α}
    {read : Value → Reading α} (reads : read v = .ok a) (found : Value.find? entries name = some v)
    (more : List String) (absent : Option α) :
    field entries (name :: more) absent read = .ok a := by
  simp only [field, lookup, found, reads, within]

theorem of_field_of_find? {entries : List (Value × Value)} {name : String} {v : Value} {a : α}
    {read : Value → Reading α} {more : List String} {absent : Option α}
    (found : Value.find? entries name = some v)
    (reads : field entries (name :: more) absent read = .ok a) : read v = .ok a := by
  simp only [field, lookup, found] at reads
  exact within_eq_ok_iff.mp reads

/-- A field that is read is read from some value, unless it is absent and has its default value. -/
theorem value_of_field {entries : List (Value × Value)} {names : List String} {absent : Option α}
    {a : α} {read : Value → Reading α} (found : field entries names absent read = .ok a) :
    (∃ v, read v = .ok a) ∨ absent = some a := by
  unfold field at found
  split at found
  · rename_i name v _
    exact .inl ⟨v, within_eq_ok_iff.mp found⟩
  · split at found
    · cases found
      exact .inr rfl
    · cases found

/-- A required field that is read is read from some value. -/
theorem value_of_required {entries : List (Value × Value)} {names : List String} {a : α}
    {read : Value → Reading α} (found : required entries names read = .ok a) :
    ∃ v, read v = .ok a := by
  rcases value_of_field found with value | absent
  · exact value
  · cases absent

/-- Items that are read are each read from some value. -/
theorem value_of_items {read : Value → Reading α} {n : Nat} {vs : List Value} {as : List α}
    (found : items read n vs = .ok as) : ∀ a ∈ as, ∃ v, read v = .ok a := by
  induction vs generalizing n as with
  | nil =>
    cases found
    intro a member
    cases member
  | cons v rest ih =>
    -- An item and the items after it are read like two fields.
    obtain ⟨_, later, first, rest_eq, rfl⟩ := parts_of_seq (found : _ <*> _ = Reading.ok as)
    obtain ⟨head, head_eq, rfl⟩ := part_of_map (first : _ <$> _ = Reading.ok _)
    intro a member
    rcases List.mem_cons.mp member with rfl | member
    · exact ⟨v, within_eq_ok_iff.mp head_eq⟩
    · exact ih rest_eq a member

theorem value_of_list {read : Value → Reading α} {v : Value} {as : List α}
    (found : list read v = .ok as) : ∀ a ∈ as, ∃ v, read v = .ok a := by
  cases v with
  | list vs => exact value_of_items found
  | tuple vs => exact value_of_items found
  | set vs => exact value_of_items found
  | _ => cases found

/-- A list is read back from what its items are written as. -/
theorem list_map_write {read : Value → Reading α} {write : α → Value} {as : List α}
    (reads : ∀ a ∈ as, read (write a) = .ok a) : list read (.list (as.map write)) = .ok as := by
  have fromIndex (n : Nat) : items read n (as.map write) = .ok as := by
    induction as generalizing n with
    | nil => rfl
    | cons a rest ih =>
      rw [List.map_cons, items, reads a List.mem_cons_self,
        ih (fun b member => reads b (List.mem_cons_of_mem a member))]
      rfl
  exact fromIndex 0

end Reading

end EnrollmentDiagnosis
