import EnrollmentDiagnosis.Proofs.CaseRuns
import EnrollmentDiagnosis.Rule.Condition
import Mathlib.Data.List.Basic

set_option autoImplicit false

namespace EnrollmentDiagnosis

namespace Text

/-- The ranges of blanks. -/
def blankRanges : List (Nat × Nat) := (0x1C, 0x1F) :: whiteSpaceRanges

theorem exists_of_isBlank {c : Char} (blank : isBlank c = true) :
    ∃ range ∈ blankRanges, range.1 ≤ c.toNat ∧ c.toNat ≤ range.2 := by
  rw [isBlank, Bool.or_eq_true, Bool.and_eq_true, decide_eq_true_eq, decide_eq_true_eq] at blank
  rcases blank with separator | space
  · exact ⟨(0x1C, 0x1F), List.mem_cons_self, separator⟩
  · obtain ⟨range, member, within⟩ := exists_of_inRanges space
    exact ⟨range, List.mem_cons_of_mem _ member, within⟩

/-- What is no image of a lowercase run: the code points of these runs, the letter that is mapped
apart from them, the blanks, and what is no character. -/
def unreachable : List CaseRun :=
  lowercaseRuns ++ (surrogates :: (0x130, 0x130) :: blankRanges).map blockOf

theorem lowercaseRuns_mapsOutside : CaseRun.mapsOutside lowercaseRuns unreachable = true := by
  decide +kernel

/-- A lowercase letter: it is its own lowercase, inside of words too. -/
structure IsLowered (c : Char) : Prop where
  own : lowerChar c = [c]
  noSigma : c ≠ 'Σ'

/-- A letter that no run maps is lowercase and not blank. -/
theorem lowered_of_unheld {code : Nat} (small : code < 0x110000)
    (unheld : ∀ run ∈ unreachable, run.holds code = false) :
    IsLowered (Char.ofNat code) ∧ isBlank (Char.ofNat code) = false := by
  have unmapped (run : CaseRun) (member : run ∈ lowercaseRuns) : run.holds code = false :=
    unheld run (List.mem_append_left _ member)
  have outside (range : Nat × Nat)
      (listed : range ∈ surrogates :: (0x130, 0x130) :: blankRanges) :
      (blockOf range).holds code = false :=
    unheld (blockOf range) (List.mem_append_right _ (List.mem_map_of_mem listed))
  have code_eq : (Char.ofNat code).toNat = code := toNat_ofNat small (outside _ List.mem_cons_self)
  have notDotted : code ≠ 0x130 := by
    rintro rfl
    have unheldDotted := outside (0x130, 0x130) (List.mem_cons_of_mem _ List.mem_cons_self)
    cases unheldDotted
  have notUpper : ¬(0x41 ≤ code ∧ code ≤ 0x5A) := by
    intro upper
    have unheldUpper := unmapped CaseRun.capitals List.mem_cons_self
    rw [CaseRun.capitals_holds.mpr upper] at unheldUpper
    cases unheldUpper
  refine ⟨⟨?_, ?_⟩, ?_⟩
  · have unchanged := CaseRun.image?_eq_none unmapped
    simp only [lowerChar, code_eq, unchanged, if_neg notUpper, if_neg notDotted, ite_self]
  · intro sigma
    have mapped : CaseRun.holds ⟨0x3A3, 0x3AB, 1, 32⟩ code = true := by
      rw [← code_eq, sigma]
      decide
    rw [unmapped _ (List.mem_of_getElem? (i := 70) rfl)] at mapped
    cases mapped
  · rw [Bool.eq_false_iff]
    intro blank
    obtain ⟨range, member, within⟩ := exists_of_isBlank blank
    rw [code_eq] at within
    have unheldBlank := outside range (List.mem_cons_of_mem _ (List.mem_cons_of_mem _ member))
    rw [blockOf_holds.mpr within] at unheldBlank
    cases unheldBlank

/-- A letter is its own lowercase, or lowercase letters that are not blank stand for it. -/
theorem lowerChar_cases (c : Char) :
    lowerChar c = [c] ∨
      lowerChar c ≠ [] ∧ ∀ d ∈ lowerChar c, IsLowered d ∧ isBlank d = false := by
  have mapped {image : Nat} (found : CaseRun.image? lowercaseRuns c.toNat = some image) :
      ∀ d ∈ [Char.ofNat image], IsLowered d ∧ isBlank d = false := by
    intro d member
    rw [List.mem_singleton.mp member]
    obtain ⟨small, unheld⟩ := CaseRun.unheld_of_image? lowercaseRuns_mapsOutside found
    exact lowered_of_unheld small unheld
  unfold lowerChar
  dsimp only
  split
  · split
    · -- The capital letters of ASCII are those of the first run.
      exact .inr ⟨List.cons_ne_nil _ _, mapped (CaseRun.image?_capitals ‹_› _)⟩
    · exact .inl rfl
  · split
    · refine .inr ⟨List.cons_ne_nil _ _, fun d member => ?_⟩
      simp only [List.mem_cons, List.not_mem_nil, or_false] at member
      rcases member with rfl | rfl
      · exact ⟨⟨by decide +kernel, by decide⟩, by decide⟩
      · exact ⟨⟨by decide +kernel, by decide⟩, by decide⟩
    · split
      · exact .inr ⟨List.cons_ne_nil _ _, mapped ‹_›⟩
      · exact .inl rfl

/-- One letter is lowercased to lowercase letters, and to none that is blank unless it is blank. -/
theorem lowerAfter_cons (before rest : List Char) (c : Char) :
    ∃ image, image ≠ [] ∧ (∀ d ∈ image, IsLowered d ∧ (isBlank c = false → isBlank d = false)) ∧
      lowerAfter before (c :: rest) = image ++ lowerAfter (c :: before) rest := by
  refine ⟨_, ?_, ?_, rfl⟩
  · split
    · exact List.cons_ne_nil _ _
    · rcases lowerChar_cases c with own | ⟨nonempty, -⟩
      · rw [own]
        exact List.cons_ne_nil _ _
      · exact nonempty
  · intro d member
    split at member
    · rw [List.mem_singleton] at member
      split at member
      · rw [member]
        exact ⟨⟨by decide +kernel, by decide⟩, fun _ => by decide⟩
      · rw [member]
        exact ⟨⟨by decide +kernel, by decide⟩, fun _ => by decide⟩
    · next noSigma =>
      rcases lowerChar_cases c with own | ⟨-, lowered⟩
      · rw [own, List.mem_singleton] at member
        subst member
        exact ⟨⟨own, noSigma⟩, id⟩
      · exact ⟨(lowered d member).1, fun _ => (lowered d member).2⟩

theorem lowerAfter_lowered (before s : List Char) : ∀ d ∈ lowerAfter before s, IsLowered d := by
  induction s generalizing before with
  | nil => intro d member; cases member
  | cons c rest ih =>
    obtain ⟨image, -, lowered, image_eq⟩ := lowerAfter_cons before rest c
    rw [image_eq]
    intro d member
    rcases List.mem_append.mp member with first | later
    · exact (lowered d first).1
    · exact ih (c :: before) d later

theorem lowerAfter_eq_self (before : List Char) {s : List Char} (lowered : ∀ c ∈ s, IsLowered c) :
    lowerAfter before s = s := by
  induction s generalizing before with
  | nil => rfl
  | cons c rest ih =>
    have first := lowered c List.mem_cons_self
    rw [lowerAfter, if_neg first.noSigma, first.own,
      ih (c :: before) fun d member => lowered d (List.mem_cons_of_mem c member)]
    rfl

/-- A text that has no blank at either end. -/
structure IsBare (s : List Char) : Prop where
  first : ∀ c ∈ s.head?, isBlank c = false
  last : ∀ c ∈ s.getLast?, isBlank c = false

theorem dropWhile_eq_self {drop : Char → Bool} {s : List Char}
    (first : ∀ c ∈ s.head?, drop c = false) : s.dropWhile drop = s := by
  cases s with
  | nil => rfl
  | cons c rest => rw [List.dropWhile_cons_of_neg (by rw [first c rfl]; exact Bool.false_ne_true)]

theorem IsBare.trimmed_eq {s : List Char} (bare : IsBare s) : trimmed isBlank s = s := by
  rw [trimmed, dropWhile_eq_self bare.first, dropWhile_eq_self, List.reverse_reverse]
  rw [List.head?_reverse]
  exact bare.last

theorem head?_dropWhile_isBlank (s : List Char) :
    ∀ c ∈ (s.dropWhile isBlank).head?, isBlank c = false := by
  intro c found
  have stopped := List.head?_dropWhile_not isBlank s
  rw [Option.mem_def] at found
  rw [found] at stopped
  simpa using stopped

theorem trimmed_isBare (s : List Char) : IsBare (trimmed isBlank s) where
  first := by
    -- What is dropped at the end leaves the first character, unless all of the text is dropped.
    obtain ⟨dropped, whole⟩ := List.dropWhile_suffix isBlank (l := (s.dropWhile isBlank).reverse)
    intro c found
    refine head?_dropWhile_isBlank s c ?_
    rw [← List.reverse_reverse (s.dropWhile isBlank), ← whole, List.reverse_append,
      List.head?_append]
    exact Option.mem_def.mpr (by rw [← trimmed, Option.mem_def.mp found]; rfl)
  last := by
    intro c found
    rw [trimmed, List.getLast?_reverse] at found
    exact head?_dropWhile_isBlank _ c found

theorem lowerAfter_ne_nil {before s : List Char} (nonempty : s ≠ []) :
    lowerAfter before s ≠ [] := by
  cases s with
  | nil => exact absurd rfl nonempty
  | cons c rest =>
    obtain ⟨image, imageNonempty, -, image_eq⟩ := lowerAfter_cons before rest c
    rw [image_eq]
    exact List.append_ne_nil_of_left_ne_nil imageNonempty _

/-- Lowercasing puts no blanks at the ends of a text. -/
theorem IsBare.lowerAfter {s : List Char} (bare : IsBare s) (before : List Char) :
    IsBare (lowerAfter before s) where
  first := by
    cases s with
    | nil => intro c found; cases found
    | cons c rest =>
      obtain ⟨image, nonempty, lowered, image_eq⟩ := lowerAfter_cons before rest c
      intro d found
      rw [image_eq, List.head?_append_of_ne_nil _ nonempty] at found
      exact (lowered d (List.mem_of_mem_head? found)).2 (bare.first c rfl)
  last := by
    have last := bare.last
    clear bare
    induction s generalizing before with
    | nil => intro c found; cases found
    | cons c rest ih =>
      obtain ⟨image, nonempty, lowered, image_eq⟩ := lowerAfter_cons before rest c
      intro d found
      rw [image_eq] at found
      cases rest with
      | nil =>
        rw [Text.lowerAfter, List.append_nil] at found
        exact (lowered d (List.mem_of_mem_getLast? found)).2 (last c rfl)
      | cons next rest =>
        rw [List.getLast?_append_of_ne_nil _ (lowerAfter_ne_nil (List.cons_ne_nil _ _))] at found
        exact ih (c :: before) (fun e found => last e (by rwa [List.getLast?_cons_cons])) d found

end Text

/-- A label in plain form is its own plain form. -/
theorem plainLabel_plainLabel (label : String) :
    plainLabel (plainLabel label) = plainLabel label := by
  have bare := (Text.trimmed_isBare label.toList).lowerAfter []
  have lowered := Text.lowerAfter_lowered [] (Text.trimmed Text.isBlank label.toList)
  simp only [plainLabel, Text.lower, Text.strip, String.toList_ofList]
  rw [bare.trimmed_eq, Text.lowerAfter_eq_self [] lowered]

end EnrollmentDiagnosis
