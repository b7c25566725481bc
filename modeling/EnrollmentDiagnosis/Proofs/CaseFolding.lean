import EnrollmentDiagnosis.Proofs.CaseRuns
import EnrollmentDiagnosis.Text.Folding

set_option autoImplicit false

namespace EnrollmentDiagnosis.Text

theorem exists_of_expansion? {table : List (Nat × List Nat)} {code : Nat} {images : List Nat}
    (found : expansion? table code = some images) : (code, images) ∈ table := by
  induction table with
  | nil => cases found
  | cons entry rest ih =>
    obtain ⟨source, target⟩ := entry
    unfold expansion? at found
    split at found
    · rename_i same
      cases found
      exact same ▸ List.mem_cons_self
    · exact List.mem_cons_of_mem _ (ih found)

/-- What no folding consists of: the code points that fold to others, and what is no character. -/
def unfoldedRuns : List CaseRun :=
  blockOf surrogates :: foldingRuns ++ foldingExpansions.map fun (code, _) => pointOf code

theorem foldingRuns_mapsOutside : CaseRun.mapsOutside foldingRuns unfoldedRuns = true := by
  decide +kernel

/-- Every expansion is of some code points, and each of them is a folded character. -/
theorem foldingExpansions_folded :
    (foldingExpansions.all fun (_, images) => !images.isEmpty && images.all fun image =>
      Nat.blt image 0x110000 && unfoldedRuns.all fun run => !run.holds image) = true := by
  decide +kernel

/-- A character that nothing folds is its own folding. -/
theorem foldChar_of_unheld {code : Nat} (small : code < 0x110000)
    (unheld : ∀ run ∈ unfoldedRuns, run.holds code = false) :
    foldChar (Char.ofNat code) = [Char.ofNat code] := by
  have unmapped (run : CaseRun) (member : run ∈ foldingRuns) : run.holds code = false :=
    unheld run (List.mem_append_left _ (List.mem_cons_of_mem _ member))
  have code_eq : (Char.ofNat code).toNat = code :=
    toNat_ofNat small (unheld _ List.mem_cons_self)
  have notUpper : ¬(0x41 ≤ code ∧ code ≤ 0x5A) := by
    intro upper
    have unheldUpper := unmapped CaseRun.capitals List.mem_cons_self
    rw [CaseRun.capitals_holds.mpr upper] at unheldUpper
    cases unheldUpper
  have unexpanded : expansion? foldingExpansions code = none := by
    rw [Option.eq_none_iff_forall_ne_some]
    intro images found
    have listed : pointOf code ∈ unfoldedRuns :=
      List.mem_append_right _ (List.mem_map_of_mem (exists_of_expansion? found))
    have unheldHere := unheld _ listed
    rw [pointOf_holds] at unheldHere
    cases unheldHere
  have unchanged := CaseRun.image?_eq_none unmapped
  simp only [foldChar, code_eq, unchanged, unexpanded, if_neg notUpper, ite_self]

/-- A character is its own folding, or folded characters stand for it. -/
theorem foldChar_cases (c : Char) :
    foldChar c = [c] ∨ foldChar c ≠ [] ∧ ∀ d ∈ foldChar c, foldChar d = [d] := by
  have mapped {image : Nat} (found : CaseRun.image? foldingRuns c.toNat = some image) :
      ∀ d ∈ [Char.ofNat image], foldChar d = [d] := by
    intro d member
    obtain ⟨small, unheld⟩ := CaseRun.unheld_of_image? foldingRuns_mapsOutside found
    rw [List.mem_singleton.mp member]
    exact foldChar_of_unheld small unheld
  unfold foldChar
  dsimp only
  split
  · split
    · exact .inr ⟨List.cons_ne_nil _ _, mapped (CaseRun.image?_capitals ‹_› _)⟩
    · exact .inl rfl
  · split
    · exact .inr ⟨List.cons_ne_nil _ _, mapped ‹_›⟩
    · split
      · rename_i images found
        have listed := exists_of_expansion? found
        have checked := List.all_eq_true.mp foldingExpansions_folded _ listed
        simp only [Bool.and_eq_true, Bool.not_eq_true', List.isEmpty_eq_false_iff,
          List.all_eq_true, Nat.blt_eq] at checked
        refine .inr ⟨fun empty => checked.1 (List.map_eq_nil_iff.mp empty), fun d member => ?_⟩
        obtain ⟨image, imageMember, rfl⟩ := List.mem_map.mp member
        obtain ⟨small, unheld⟩ := checked.2 image imageMember
        exact foldChar_of_unheld small unheld
      · exact .inl rfl

theorem foldChar_ne_nil (c : Char) : foldChar c ≠ [] := by
  rcases foldChar_cases c with own | ⟨nonempty, -⟩
  · rw [own]
    exact List.cons_ne_nil _ _
  · exact nonempty

theorem foldChar_of_mem {c d : Char} (member : d ∈ foldChar c) : foldChar d = [d] := by
  rcases foldChar_cases c with own | ⟨-, folded⟩
  · rw [own, List.mem_singleton] at member
    rw [member, own]
  · exact folded d member

theorem flatMap_foldChar_eq_self {s : List Char} (folded : ∀ c ∈ s, foldChar c = [c]) :
    s.flatMap foldChar = s := by
  induction s with
  | nil => rfl
  | cons c rest ih =>
    rw [List.flatMap_cons, folded c List.mem_cons_self,
      ih fun d member => folded d (List.mem_cons_of_mem c member)]
    rfl

/-- A folded text is its own folding. -/
theorem fold_fold (s : String) : fold (fold s) = fold s := by
  have folded : ∀ c ∈ s.toList.flatMap foldChar, foldChar c = [c] := by
    intro c member
    obtain ⟨source, -, image⟩ := List.mem_flatMap.mp member
    exact foldChar_of_mem image
  simp only [fold, String.toList_ofList]
  rw [flatMap_foldChar_eq_self folded]

theorem fold_eq_empty_iff {s : String} : fold s = "" ↔ s = "" := by
  constructor
  · intro empty
    cases chars : s.toList with
    | nil => exact String.toList_eq_nil_iff.mp chars
    | cons c rest =>
      have folded : s.toList.flatMap foldChar = [] := by
        rw [← String.toList_ofList (l := s.toList.flatMap foldChar), ← fold, empty]
        rfl
      rw [chars, List.flatMap_cons, List.append_eq_nil_iff] at folded
      exact absurd folded.1 (foldChar_ne_nil c)
  · rintro rfl
    rfl

/-- Folding either text does not change whether two texts differ in case at most. -/
theorem sameFold_fold_left (a b : String) : sameFold (fold a) b = sameFold a b := by
  rw [sameFold, fold_fold, sameFold]

theorem sameFold_fold_right (a b : String) : sameFold a (fold b) = sameFold a b := by
  rw [sameFold, fold_fold, sameFold]

end EnrollmentDiagnosis.Text
