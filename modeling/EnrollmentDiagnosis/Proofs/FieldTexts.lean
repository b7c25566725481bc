import EnrollmentDiagnosis.Detection.Lookup

set_option autoImplicit false

namespace EnrollmentDiagnosis

/-- An integer with more digits than are written. -/
def overlongInteger : Int := Int.ofNat (Nat.pow 16 3600)

/-- True when a datum has a text: no integer in it has too many digits. -/
def Datum.isWritable (d : Datum) : Bool := d.toValue.isWritable

/-- The text by which operators compare a datum. An integer with too many digits has the text that
it would have without a limit. -/
def Datum.comparisonText (d : Datum) : Option String := d.toValue.comparisonText

namespace Payload

variable {p : Payload} {name : String} {d : Datum}

theorem mem_of_exactDatum? (found : p.exactDatum? name = some d) : (name, d) ∈ p := by
  induction p with
  | nil => cases found
  | cons entry rest ih =>
    unfold exactDatum? at found
    split at found
    · rename_i here
      cases found
      exact here ▸ List.mem_cons_self
    · exact List.mem_cons_of_mem _ (ih found)

theorem mem_of_caseless? {lowered : String} (found : p.caseless? lowered = some d) :
    ∃ key, (key, d) ∈ p ∧ Text.lower key = lowered := by
  induction p with
  | nil => cases found
  | cons entry rest ih =>
    unfold caseless? at found
    split at found
    · cases found
      exact ⟨entry.1, List.mem_cons_self, ‹_›⟩
    · obtain ⟨key, member, same⟩ := ih found
      exact ⟨key, List.mem_cons_of_mem _ member, same⟩

theorem mem_of_find? (found : p.find? name = some d) :
    ∃ key, (key, d) ∈ p ∧ Text.lower name = Text.lower key := by
  unfold find? at found
  split at found
  · rename_i verbatim
    cases found
    exact ⟨name, mem_of_exactDatum? verbatim, rfl⟩
  · obtain ⟨key, member, same⟩ := mem_of_caseless? found
    exact ⟨key, member, same.symm⟩

theorem isWritable_group_cons (entry : String × Datum) (rest : Payload) :
    (Datum.group (entry :: rest)).isWritable =
      (entry.2.isWritable && (Datum.group rest).isWritable) := by
  simp only [Datum.isWritable, Datum.toValue, Datum.toEntries, Value.isWritable,
    Value.entriesAreWritable, Bool.true_and]

theorem isWritable_of_mem (writable : (Datum.group p).isWritable = true) {key : String}
    (member : (key, d) ∈ p) : d.isWritable = true := by
  induction p with
  | nil => cases member
  | cons entry rest ih =>
    rw [isWritable_group_cons, Bool.and_eq_true] at writable
    rcases List.mem_cons.mp member with rfl | later
    · exact writable.1
    · exact ih writable.2 later

theorem isWritable_of_follow? {names : List String} {start : Datum}
    (writable : start.isWritable = true) (found : follow? start names = some d) :
    d.isWritable = true := by
  induction names generalizing start with
  | nil =>
    rw [follow?] at found
    exact Option.some.inj found ▸ writable
  | cons name rest ih =>
    cases start with
    | group entries =>
      rw [follow?] at found
      split at found
      · rename_i next here
        obtain ⟨key, member, -⟩ := mem_of_find? here
        exact ih (isWritable_of_mem writable member) found
      · cases found
    | _ =>
      rw [follow?] at found
      · cases found
      · simp

/-- What is found in a payload that can be written can be written. -/
theorem isWritable_of_datum? (writable : (Datum.group p).isWritable = true)
    (found : p.datum? name = some d) : d.isWritable = true := by
  unfold datum? at found
  split at found
  · rename_i here
    cases found
    obtain ⟨key, member, -⟩ := mem_of_find? here
    exact isWritable_of_mem writable member
  · exact isWritable_of_follow? writable found

end Payload

/-- The text of the datum with a name, or else at the end of a path. -/
def Payload.text? (p : Payload) (path : String) : Option String :=
  (p.datum? path).bind Datum.comparisonText

namespace Event

/-- The text of a field, if integers were written without a limit. -/
def field? (e : Event) (name : String) : Option String :=
  if name = "" then none
  else if Text.lower name = messageField then some e.message
  else e.payload.text? name

/-- True unless a field holds a datum that cannot be written. -/
def isLegible (e : Event) (name : String) : Bool :=
  name == "" || Text.lower name == messageField || (e.payload.datum? name).all Datum.isWritable

theorem isLegible_of_isWritable {e : Event} (writable : (Datum.group e.payload).isWritable = true)
    (name : String) : e.isLegible name = true := by
  unfold isLegible
  cases found : e.payload.datum? name with
  | none => simp only [Option.all_none, Bool.or_true]
  | some d =>
    rw [Option.all_some, Payload.isWritable_of_datum? writable found, Bool.or_true]

theorem lookUp_eq (e : Event) (name : String) :
    e.lookUp name = if e.isLegible name then .ok (e.field? name) else .error .unwritable := by
  unfold lookUp field? isLegible
  by_cases unnamed : name = ""
  · simp only [unnamed, ↓reduceIte, BEq.rfl, Bool.true_or]
  by_cases message : Text.lower name = messageField
  · simp only [unnamed, message, ↓reduceIte, BEq.rfl, Bool.or_true, Bool.true_or]
  simp only [unnamed, message, ↓reduceIte, beq_eq_false_iff_ne.mpr unnamed,
    beq_eq_false_iff_ne.mpr message, Bool.false_or, Payload.text?]
  cases e.payload.datum? name with
  | none => rfl
  | some d => rfl

end Event

end EnrollmentDiagnosis
