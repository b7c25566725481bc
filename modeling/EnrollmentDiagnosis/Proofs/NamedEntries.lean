import EnrollmentDiagnosis.Entries

set_option autoImplicit false

namespace EnrollmentDiagnosis.Entries

variable {α : Type} {entries : Entries α} {key name : String} {a : α}

theorem lookup_cons_eq (entry : String × α) (rest : Entries α) (key : String) :
    List.lookup key (entry :: rest) = if key = entry.1 then some entry.2 else rest.lookup key := by
  rw [List.lookup_cons]
  by_cases here : key = entry.1
  · simp [here]
  · simp [here, beq_eq_false_iff_ne.mpr here]

theorem lookup_put (entries : Entries α) (name : String) (a : α) (key : String) :
    (entries.put name a).lookup key = if key = name then some a else entries.lookup key := by
  induction entries with
  | nil => exact lookup_cons_eq (name, a) [] key
  | cons entry rest ih =>
    unfold put
    split
    · rename_i here
      rw [lookup_cons_eq, lookup_cons_eq, here]
      split <;> rfl
    · rename_i other
      rw [lookup_cons_eq, lookup_cons_eq, ih]
      by_cases same : key = entry.1
      · rw [if_pos same, if_pos same, if_neg (same ▸ other)]
      · rw [if_neg same, if_neg same]

theorem lookup_putAll (entries more : Entries α) (key : String) :
    (entries.putAll more).lookup key = (more.reverse.lookup key).or (entries.lookup key) := by
  induction more generalizing entries with
  | nil => rfl
  | cons entry rest ih =>
    have step : entries.putAll (entry :: rest) = putAll (entries.put entry.1 entry.2) rest := rfl
    have single : List.lookup key [entry] = if key = entry.1 then some entry.2 else none :=
      lookup_cons_eq entry [] key
    rw [step, ih, lookup_put, List.reverse_cons, List.lookup_append, Option.or_assoc, single]
    split <;> rfl

theorem mem_names_iff : key ∈ entries.names ↔ (entries.lookup key).isSome = true := by
  induction entries with
  | nil => simp [names]
  | cons entry rest ih =>
    have later : key ∈ names (entry :: rest) ↔ key = entry.1 ∨ key ∈ names rest := List.mem_cons
    rw [later, lookup_cons_eq]
    by_cases here : key = entry.1
    · simp [here]
    · simp [here, ih]

theorem mem_names_put : key ∈ (entries.put name a).names ↔ key = name ∨ key ∈ entries.names := by
  rw [mem_names_iff, mem_names_iff, lookup_put]
  by_cases here : key = name
  · simp [here]
  · simp [here]

end EnrollmentDiagnosis.Entries
