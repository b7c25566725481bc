import EnrollmentDiagnosis.Proofs.InstallSearch
import EnrollmentDiagnosis.Proofs.LateEvents

set_option autoImplicit false

namespace EnrollmentDiagnosis

/-- No event in which two lists differ starts an installation. -/
def SameStarts (events later : List Event) : Prop :=
  ∀ e, e.hasTypeIn installStartTypes = true → (e ∈ events ↔ e ∈ later)

theorem SameStarts.of_added {events later : List Event} (part : events ⊆ later)
    (noStart : ∀ e ∈ later, e ∉ events → ¬e.hasTypeIn installStartTypes = true) :
    SameStarts events later := by
  intro e isStart
  refine ⟨(part ·), fun added => ?_⟩
  by_contra outside
  exact noStart e added outside isStart

namespace Condition

variable {events later : List Event}

theorem installStarts_subset (same : SameStarts events later) :
    installStarts events ⊆ installStarts later := by
  intro e member
  obtain ⟨there, isStart⟩ := mem_installStarts.mp member
  exact mem_installStarts.mpr ⟨(same e isStart).mp there, isStart⟩

/-- The latest start of an app among more starts is no earlier. -/
theorem latestStart?_le {starts more : List Event} {time : Time.Instant} {appKey : String}
    (grown : starts ⊆ more) (ordered : starts.Pairwise fun a b => a.inOrder b = true)
    (orderedMore : more.Pairwise fun a b => a.inOrder b = true) {start : Event}
    (found : Event.latestStart? starts time appKey = some start) :
    ∃ latest, Event.latestStart? more time appKey = some latest ∧ start.time ≤ latest.time := by
  obtain ⟨about, early, -⟩ := Event.latestStart?_latest ordered found
  have member : start ∈ more := grown (Event.latestStart?_mem found)
  obtain ⟨latest, foundMore⟩ := Option.isSome_iff_exists.mp
    ((Event.latestStart?_isSome orderedMore).mpr ⟨start, member, about, early⟩)
  obtain ⟨-, -, last⟩ := Event.latestStart?_latest orderedMore foundMore
  exact ⟨latest, foundMore, last start member about early⟩

/-- Among the same starts an installation begins at the same time: of the starts with the latest
time another one may come last, but none is later. -/
theorem latestStart?_time (same : SameStarts events later) {time : Time.Instant} {appKey : String}
    {start : Event}
    (found : Event.latestStart? (installStarts events) time appKey = some start) :
    ∃ startLater, Event.latestStart? (installStarts later) time appKey = some startLater ∧
      startLater.time = start.time := by
  have back : SameStarts later events := fun e isStart => (same e isStart).symm
  obtain ⟨startLater, foundLater, least⟩ := latestStart?_le (installStarts_subset same)
    (installStarts_ordered events) (installStarts_ordered later) found
  obtain ⟨again, foundAgain, most⟩ := latestStart?_le (installStarts_subset back)
    (installStarts_ordered later) (installStarts_ordered events) foundLater
  have only : again = start := Option.some.inj (foundAgain.symm.trans found)
  rw [only] at most
  refine ⟨startLater, foundLater, Time.Instant.eq_iff.mpr ?_⟩
  have atLeast : start.time.microseconds ≤ startLater.time.microseconds := least
  have atMost : startLater.time.microseconds ≤ start.time.microseconds := most
  omega

/-- The installation that a completion ends takes as long as before. -/
theorem installOf?_isSome_of_sameStarts (same : SameStarts events later) {matcher : Matcher}
    {c : Condition} {completion : Event}
    (installed : (c.installOf? matcher (installStarts events) completion).isSome = true) :
    (c.installOf? matcher (installStarts later) completion).isSome = true := by
  rw [installOf?_isSome] at installed ⊢
  obtain ⟨appKey, start, key, found, accepted⟩ := installed
  obtain ⟨startLater, foundLater, sameTime⟩ := latestStart?_time same found
  refine ⟨appKey, startLater, key, foundLater, ?_⟩
  have duration : installSeconds startLater completion = installSeconds start completion := by
    simp only [installSeconds, installDuration, sameTime]
  rwa [duration]

theorem detectInstall_isMatch_of_sameStarts (part : events ⊆ later)
    (same : SameStarts events later) {matcher : Matcher} {c : Condition}
    (matched : (c.detectInstall matcher events).isMatch = true) :
    (c.detectInstall matcher later).isMatch = true := by
  rw [detectInstall_isMatch_iff] at matched ⊢
  obtain ⟨completion, member, completes, installed⟩ := matched
  exact ⟨completion, part member, completes, installOf?_isSome_of_sameStarts same installed⟩

/-- With more events the plain search goes on to match. -/
theorem detect_isMatch_of_added (setting : DetectionSetting) (c : Condition)
    (part : events.Subperm later)
    (noStart : c.source = .appInstallDuration →
      ∀ e ∈ later, e ∉ events → ¬e.hasTypeIn installStartTypes = true)
    (matched : (c.detect setting events).isMatch = true) :
    (c.detect setting later).isMatch = true := by
  by_cases installs : c.source = .appInstallDuration
  · rw [detect_eq_detectInstall setting _ installs] at matched ⊢
    have same : SameStarts events later := .of_added part.subset (noStart installs)
    exact detectInstall_isMatch_of_sameStarts part.subset same matched
  · exact detect_isMatch_of_subperm part setting installs matched

/-- An installation of an app with two starts of one time, and its completion. -/
def tiedInstall : List Event := [
  installEvent "s1" "app_install_started" "vpn" 10, installEvent "s2" "app_install_start" "vpn" 10,
  installEvent "f" "app_install_failed" "VPN" 900]

/-- Completions of other installations, of which one has no start and one is soon done. -/
def otherCompletions : List Event := [
  installEvent "m" "app_install_completed" "mail" 5, installEvent "v" "app_install_failed" "vpn" 20]

theorem slowInstall_matches_tiedInstall : slowInstall.Matches default tiedInstall := by
  have sorted : Event.sort tiedInstall = tiedInstall := by
    simp [tiedInstall, Event.sort, List.mergeSort, inOrder_installEvent]
  exact ⟨_, evaluate_of_sorted rfl sorted rfl⟩

/-- An added start shortens an installation. -/
example : (slowInstall.installOf? Pattern.matcher [installEvent "s1" "app_install_started" "vpn" 10,
    installEvent "s2" "app_install_started" "vpn" 800]
    (installEvent "f" "app_install_failed" "VPN" 900)).isSome = false := by decide +kernel

end Condition

end EnrollmentDiagnosis
