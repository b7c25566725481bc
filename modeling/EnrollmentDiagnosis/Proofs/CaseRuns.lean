import EnrollmentDiagnosis.Text.CaseRun
import EnrollmentDiagnosis.Text.Ranges

set_option autoImplicit false

namespace EnrollmentDiagnosis.Text

namespace CaseRun

/-- True for the code points that a run maps. -/
def holds (run : CaseRun) (code : Nat) : Bool :=
  Nat.ble run.first code && Nat.ble code run.last && Nat.beq ((code - run.first) % run.step) 0

/-- The images of a run, as a run. The image of a single code point has no step to another one. -/
def images (run : CaseRun) : CaseRun where
  first := ((run.first : Int) + run.shift).toNat
  last := ((run.last : Int) + run.shift).toNat
  step := if run.first = run.last then 0 else run.step
  shift := 0

/-- True for a run that keeps a distance from the code points of another one, above its first. -/
def passesBetween (run other : CaseRun) : Bool :=
  Nat.beq (run.step % other.step) 0 && Nat.ble other.first run.first &&
    !Nat.beq ((run.first - other.first) % other.step) 0

/-- True for two runs of which one ends before the other begins, or passes between the code points
of the other. -/
def isApart (run other : CaseRun) : Bool :=
  Nat.blt run.last other.first || Nat.blt other.last run.first ||
    run.passesBetween other || other.passesBetween run

theorem holds_iff {run : CaseRun} {code : Nat} :
    run.holds code = true ↔
      run.first ≤ code ∧ code ≤ run.last ∧ run.step ∣ code - run.first := by
  rw [holds, Bool.and_eq_true, Bool.and_eq_true, Nat.ble_eq, Nat.ble_eq, Nat.beq_eq,
    Nat.dvd_iff_mod_eq_zero, and_assoc]

theorem not_holds_of_passesBetween {run other : CaseRun} {code : Nat}
    (between : run.passesBetween other = true) (held : run.holds code = true) :
    other.holds code = false := by
  rw [Bool.eq_false_iff]
  intro both
  obtain ⟨low, -, multiple⟩ := holds_iff.mp held
  obtain ⟨-, -, multipleToo⟩ := holds_iff.mp both
  simp only [passesBetween, Bool.and_eq_true, Bool.not_eq_true', ← Bool.not_eq_true, Nat.ble_eq,
    Nat.beq_eq, ← Nat.dvd_iff_mod_eq_zero] at between
  obtain ⟨⟨steps, started⟩, distance⟩ := between
  have whole : code - other.first = (run.first - other.first) + (code - run.first) := by omega
  rw [whole] at multipleToo
  exact distance ((Nat.dvd_add_left (Nat.dvd_trans steps multiple)).mp multipleToo)

/-- Two runs that are apart hold no code point in common. -/
theorem not_holds_of_isApart {run other : CaseRun} {code : Nat} (apart : run.isApart other = true)
    (held : run.holds code = true) : other.holds code = false := by
  rw [Bool.eq_false_iff]
  intro both
  obtain ⟨low, high, -⟩ := holds_iff.mp held
  obtain ⟨lowToo, highToo, -⟩ := holds_iff.mp both
  simp only [isApart, Bool.or_eq_true, Nat.blt_eq] at apart
  rcases apart with ((ended | ended) | between) | between
  · omega
  · omega
  · rw [not_holds_of_passesBetween between held] at both
    cases both
  · rw [not_holds_of_passesBetween between both] at held
    cases held

theorem images_holds {run : CaseRun} {code : Nat} (started : 0 ≤ (run.first : Int) + run.shift)
    (held : run.holds code = true) : run.images.holds ((code : Int) + run.shift).toNat = true := by
  obtain ⟨low, high, multiple⟩ := holds_iff.mp held
  have offset : ((code : Int) + run.shift).toNat - ((run.first : Int) + run.shift).toNat =
      code - run.first := by omega
  rw [holds_iff, images]
  refine ⟨by dsimp only; omega, by dsimp only; omega, ?_⟩
  dsimp only
  rw [offset]
  split
  · have alone : code - run.first = 0 := by omega
    exact alone ▸ Nat.dvd_refl 0
  · exact multiple

/-- An image is the image under a run that holds the code point. -/
theorem exists_of_image? {runs : List CaseRun} {code image : Nat}
    (found : image? runs code = some image) :
    ∃ run ∈ runs, run.holds code = true ∧ image = ((code : Int) + run.shift).toNat := by
  induction runs with
  | nil => cases found
  | cons run rest ih =>
    unfold image? at found
    split at found
    · cases found
    · split at found
      · split at found
        · cases found
          exact ⟨run, List.mem_cons_self, holds_iff.mpr
            ⟨by omega, by omega, Nat.dvd_of_mod_eq_zero ‹_›⟩, rfl⟩
        · cases found
      · obtain ⟨other, member, held⟩ := ih found
        exact ⟨other, List.mem_cons_of_mem run member, held⟩

theorem image?_eq_none {runs : List CaseRun} {code : Nat}
    (unheld : ∀ run ∈ runs, run.holds code = false) : image? runs code = none := by
  cases found : image? runs code with
  | none => rfl
  | some image =>
    obtain ⟨run, member, held, -⟩ := exists_of_image? found
    rw [unheld run member] at held
    cases held

/-- True when every image of the first runs is a code point that none of the others holds. -/
def mapsOutside (runs others : List CaseRun) : Bool :=
  runs.all fun run => decide (0 ≤ (run.first : Int) + run.shift) &&
    decide ((run.last : Int) + run.shift < 0x110000) && others.all run.images.isApart

theorem unheld_of_image? {runs others : List CaseRun} (outside : mapsOutside runs others = true)
    {code image : Nat} (found : image? runs code = some image) :
    image < 0x110000 ∧ ∀ run ∈ others, run.holds image = false := by
  obtain ⟨run, member, held, rfl⟩ := exists_of_image? found
  have checked := List.all_eq_true.mp outside run member
  simp only [Bool.and_eq_true, decide_eq_true_eq] at checked
  obtain ⟨⟨started, ended⟩, apart⟩ := checked
  have within := (holds_iff.mp held).2.1
  refine ⟨by omega, fun other otherMember => ?_⟩
  exact not_holds_of_isApart (List.all_eq_true.mp apart other otherMember)
    (images_holds started held)

/-- The capital letters of ASCII. -/
def capitals : CaseRun := ⟨0x41, 0x5A, 1, 32⟩

theorem capitals_holds {code : Nat} :
    capitals.holds code = true ↔ 0x41 ≤ code ∧ code ≤ 0x5A := by
  rw [holds_iff]
  exact and_congr_right fun _ => and_iff_left (Nat.one_dvd _)

/-- Capital letters are mapped by their run when it is the first one. -/
theorem image?_capitals {code : Nat} (upper : 0x41 ≤ code ∧ code ≤ 0x5A) (rest : List CaseRun) :
    image? (capitals :: rest) code = some (code + 32) := by
  have low : ¬code < capitals.first := Nat.not_lt.mpr upper.1
  have high : code ≤ capitals.last := upper.2
  have reached : (code - capitals.first) % capitals.step = 0 := Nat.mod_one _
  rw [image?, if_neg low, if_pos high, if_pos reached]
  rfl

end CaseRun

/-- The code points of a range, as a run. -/
def blockOf (range : Nat × Nat) : CaseRun := ⟨range.1, range.2, 1, 0⟩

theorem blockOf_holds {range : Nat × Nat} {code : Nat} :
    (blockOf range).holds code = true ↔ range.1 ≤ code ∧ code ≤ range.2 := by
  rw [CaseRun.holds_iff]
  exact and_congr_right fun _ => and_iff_left (Nat.one_dvd _)

theorem exists_of_inRanges {ranges : List (Nat × Nat)} {code : Nat}
    (found : inRanges ranges code = true) :
    ∃ range ∈ ranges, range.1 ≤ code ∧ code ≤ range.2 := by
  induction ranges with
  | nil => cases found
  | cons range rest ih =>
    unfold inRanges at found
    split at found
    · cases found
    · split at found
      · exact ⟨range, List.mem_cons_self, by omega, by omega⟩
      · obtain ⟨other, member, within⟩ := ih found
        exact ⟨other, List.mem_cons_of_mem range member, within⟩

/-- A single code point, as a run. -/
def pointOf (code : Nat) : CaseRun := ⟨code, code, 0, 0⟩

theorem pointOf_holds (code : Nat) : (pointOf code).holds code = true := by
  rw [CaseRun.holds_iff]
  exact ⟨Nat.le_refl _, Nat.le_refl _, Nat.sub_self code ▸ Nat.dvd_refl 0⟩

/-- The code points below the greatest one that are no characters. -/
def surrogates : Nat × Nat := (0xD800, 0xDFFF)

theorem toNat_ofNat {code : Nat} (small : code < 0x110000)
    (unheld : (blockOf surrogates).holds code = false) : (Char.ofNat code).toNat = code := by
  have outside : ¬(0xD800 ≤ code ∧ code ≤ 0xDFFF) := by
    intro within
    rw [blockOf_holds.mpr within] at unheld
    cases unheld
  have valid : code.isValidChar := by
    unfold Nat.isValidChar
    omega
  rw [Char.ofNat, dif_pos valid]
  rfl

end EnrollmentDiagnosis.Text
