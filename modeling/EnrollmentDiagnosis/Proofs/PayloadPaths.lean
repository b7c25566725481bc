import EnrollmentDiagnosis.Proofs.FieldTexts
import EnrollmentDiagnosis.Proofs.PlainLabels
import EnrollmentDiagnosis.Proofs.WrittenEvents

set_option autoImplicit false

namespace EnrollmentDiagnosis

namespace Text

/-- Texts that have the same lowercase. -/
def SameLower (a b : String) : Prop := lower a = lower b

theorem lowercaseRuns_avoidPoint :
    CaseRun.mapsOutside lowercaseRuns [blockOf surrogates, pointOf 0x2E] = true := by
  decide +kernel

theorem eq_point_of_mem_lowerChar {c : Char} (member : '.' ∈ lowerChar c) : c = '.' := by
  have mapped {image : Nat} (found : CaseRun.image? lowercaseRuns c.toNat = some image) :
      '.' ∉ [Char.ofNat image] := by
    intro point
    obtain ⟨small, unheld⟩ := CaseRun.unheld_of_image? lowercaseRuns_avoidPoint found
    have image_eq : (Char.ofNat image).toNat = image :=
      toNat_ofNat small (unheld _ List.mem_cons_self)
    have code : image = 0x2E := by
      rw [← image_eq, ← List.mem_singleton.mp point]
      rfl
    have apart := unheld (pointOf 0x2E) (List.mem_cons_of_mem _ List.mem_cons_self)
    rw [code, pointOf_holds] at apart
    cases apart
  unfold lowerChar at member
  dsimp only at member
  split at member
  · split at member
    · exact absurd member (mapped (CaseRun.image?_capitals ‹_› _))
    · exact (List.mem_singleton.mp member).symm
  · split at member
    · exact absurd member (by decide)
    · split at member
      · exact absurd member (mapped ‹_›)
      · exact (List.mem_singleton.mp member).symm

theorem point_mem_lowerAfter_iff (before s : List Char) :
    '.' ∈ lowerAfter before s ↔ '.' ∈ s := by
  induction s generalizing before with
  | nil => rfl
  | cons c rest ih =>
    rw [lowerAfter, List.mem_append, ih, List.mem_cons]
    refine or_congr_left ?_
    constructor
    · intro member
      split at member
      · split at member <;> exact absurd member (by decide)
      · exact (eq_point_of_mem_lowerChar member).symm
    · rintro rfl
      exact List.mem_singleton_self '.'

/-- A text has a point exactly when its lowercase has one. -/
theorem point_mem_lower_iff {s : String} : '.' ∈ (lower s).toList ↔ '.' ∈ s.toList := by
  rw [lower, String.toList_ofList]
  exact point_mem_lowerAfter_iff [] s.toList

theorem SameLower.point_iff {a b : String} (same : SameLower a b) :
    '.' ∈ a.toList ↔ '.' ∈ b.toList := by
  rw [← point_mem_lower_iff, same, point_mem_lower_iff]

theorem plain_of_sameLower {names keys : List String} (same : List.Forall₂ SameLower names keys)
    (plain : ∀ key ∈ keys, '.' ∉ key.toList) : ∀ name ∈ names, '.' ∉ name.toList := by
  induction same with
  | nil => exact plain
  | cons first others ih =>
    intro name member
    rcases List.mem_cons.mp member with rfl | later
    · exact fun point => plain _ List.mem_cons_self (first.point_iff.mp point)
    · exact ih (fun key listed => plain key (List.mem_cons_of_mem _ listed)) name later

end Text

namespace Payload

theorem splitPath_eq_splitOn (s : List Char) : splitPath s = s.splitOn '.' := by
  induction s with
  | nil => rfl
  | cons c rest ih =>
    rw [splitPath, List.splitOn_cons_eq_if_modifyHead, ih]
    by_cases point : c = '.'
    · rw [if_pos point, if_pos (beq_iff_eq.mpr point)]
    · rw [if_neg point, if_neg fun equal => point (beq_iff_eq.mp equal)]
      cases parts : rest.splitOn '.' with
      | nil => exact absurd parts (List.splitOn_ne_nil '.' rest)
      | cons part later => rfl

/-- The names of a path are joined to the path again. -/
theorem intercalate_pathNames (path : String) : ".".intercalate (pathNames path) = path := by
  apply String.toList_injective
  rw [String.toList_intercalate, pathNames, splitPath_eq_splitOn, List.map_map]
  have names : String.toList ∘ String.ofList = id := funext fun s => String.toList_ofList
  rw [names, List.map_id]
  exact List.intercalate_splitOn '.'

theorem pathNames_ne_nil (path : String) : pathNames path ≠ [] := by
  rw [pathNames, splitPath_eq_splitOn]
  exact fun empty => List.splitOn_ne_nil '.' path.toList (List.map_eq_nil_iff.mp empty)

/-- Names without points are the names of the path that they are joined to. -/
theorem pathNames_intercalate {names : List String} (nonempty : names ≠ [])
    (plain : ∀ name ∈ names, '.' ∉ name.toList) : pathNames (".".intercalate names) = names := by
  have parts : ∀ part ∈ names.map String.toList, '.' ∉ part := by
    intro part member
    obtain ⟨name, listed, rfl⟩ := List.mem_map.mp member
    exact plain name listed
  have split : List.splitOn '.' (".".intercalate names).toList = names.map String.toList := by
    rw [String.toList_intercalate]
    exact List.splitOn_intercalate '.' parts fun empty => nonempty (List.map_eq_nil_iff.mp empty)
  rw [pathNames, splitPath_eq_splitOn, split, List.map_map]
  have texts : String.ofList ∘ String.toList = id := funext fun s => String.ofList_toList
  rw [texts, List.map_id]

variable {p : Payload} {name key : String} {d : Datum}

theorem caseless?_of_mem (apart : p.Pairwise fun a b => ¬Text.SameLower a.1 b.1)
    (member : (key, d) ∈ p) : p.caseless? (Text.lower key) = some d := by
  induction p with
  | nil => cases member
  | cons entry rest ih =>
    obtain ⟨apartHere, apartLater⟩ := List.pairwise_cons.mp apart
    unfold caseless?
    rcases List.mem_cons.mp member with rfl | later
    · exact if_pos rfl
    · have other : Text.lower entry.1 ≠ Text.lower key := apartHere _ later
      rw [if_neg other]
      exact ih apartLater later

/-- A datum is found by every spelling of its key, where the keys differ not only in case. -/
theorem find?_of_mem (apart : p.Pairwise fun a b => ¬Text.SameLower a.1 b.1)
    (member : (key, d) ∈ p) (same : Text.SameLower name key) : p.find? name = some d := by
  have caseless : p.caseless? (Text.lower name) = some d := by
    rw [same]
    exact caseless?_of_mem apart member
  unfold find?
  split
  · rename_i other found
    -- The datum with exactly this name is also the first one with its lowercase.
    rw [← caseless, caseless?_of_mem apart (mem_of_exactDatum? found)]
  · exact caseless

/-- Where no key has a point, a text is looked up as a path in one way: a name alone is a path of
one name. -/
theorem datum?_eq_follow? (plain : ∀ entry ∈ p, '.' ∉ entry.1.toList) (path : String) :
    p.datum? path = follow? (.group p) (pathNames path) := by
  cases found : p.find? path with
  | none => rw [datum?, found]
  | some d =>
    obtain ⟨key, member, same⟩ := mem_of_find? found
    have pointless : '.' ∉ path.toList := fun point =>
      plain _ member ((Text.SameLower.point_iff same).mp point)
    have names : pathNames path = [path] := by
      have alone : ∀ name ∈ [path], '.' ∉ name.toList := by
        intro name listed
        rw [List.mem_singleton.mp listed]
        exact pointless
      simpa only [String.intercalate_singleton] using
        pathNames_intercalate (List.cons_ne_nil path []) alone
    rw [datum?, found, names, follow?, found]
    rfl

/-- A path spells keys when it has one name for each of them, with the same lowercase. -/
def Spells (path : String) (keys : List String) : Prop :=
  ∃ names, names ≠ [] ∧ path = ".".intercalate names ∧ List.Forall₂ Text.SameLower names keys

end Payload

namespace Value

/-- The keys of one level: texts without points, of which no two have the same lowercase. -/
structure ClearKeys (entries : List (Value × Value)) : Prop where
  plain : ∀ entry ∈ entries, ∃ key, entry.1 = .text key ∧ '.' ∉ key.toList
  apart : entries.Pairwise fun a b => ¬Text.SameLower a.1.display b.1.display

/-- A value in which the keys of every level of nested mappings are clear. -/
inductive Clear : Value → Prop where
  | single {v : Value} (noMap : ∀ entries, v ≠ .map entries) : Clear v
  | group {entries : List (Value × Value)} (keys : ClearKeys entries)
      (inside : ∀ entry ∈ entries, Clear entry.2) : Clear (.map entries)

/-- The values that paths of keys lead to from a value. -/
inductive LeadsTo : List String → Value → Value → Prop where
  | here (v : Value) : LeadsTo [] v v
  | inside {key : String} {keys : List String} {entries : List (Value × Value)} {v w : Value}
      (entry : (.text key, v) ∈ entries) (rest : LeadsTo keys v w) :
      LeadsTo (key :: keys) (.map entries) w

theorem Clear.keys {entries : List (Value × Value)} (clear : Clear (.map entries)) :
    ClearKeys entries := by
  cases clear with
  | single noMap => exact absurd rfl (noMap entries)
  | group keys inside => exact keys

theorem Clear.inside {entries : List (Value × Value)} (clear : Clear (.map entries))
    {entry : Value × Value} (member : entry ∈ entries) : Clear entry.2 := by
  cases clear with
  | single noMap => exact absurd rfl (noMap entries)
  | group keys inside => exact inside entry member

/-- No key on a path through clear mappings has a point. -/
theorem LeadsTo.plain {keys : List String} {v w : Value} (path : LeadsTo keys v w)
    (clear : Clear v) : ∀ key ∈ keys, '.' ∉ key.toList := by
  induction path with
  | here v => intro key member; cases member
  | inside entry rest ih =>
    intro key member
    rcases List.mem_cons.mp member with rfl | later
    · obtain ⟨name, name_eq, plain⟩ := clear.keys.plain _ entry
      cases name_eq
      exact plain
    · exact ih (clear.inside entry) key later

end Value

namespace Datum

open Payload Value

theorem ofEntries_eq_map (entries : List (Value × Value)) :
    ofEntries entries = entries.map fun entry => (entry.1.display, ofValue entry.2) := by
  induction entries with
  | nil => rw [ofEntries, List.map_nil]
  | cons entry rest ih => rw [ofEntries, List.map_cons, ih]

theorem mem_ofEntries {entries : List (Value × Value)} {name : String} {d : Datum} :
    (name, d) ∈ ofEntries entries ↔
      ∃ entry ∈ entries, entry.1.display = name ∧ ofValue entry.2 = d := by
  simp only [ofEntries_eq_map, List.mem_map, Prod.mk.injEq]

theorem apart_ofEntries {entries : List (Value × Value)} (clear : ClearKeys entries) :
    (ofEntries entries).Pairwise fun a b => ¬Text.SameLower a.1 b.1 := by
  rw [ofEntries_eq_map, List.pairwise_map]
  exact clear.apart

theorem plain_ofEntries {entries : List (Value × Value)} (clear : ClearKeys entries) :
    ∀ entry ∈ ofEntries entries, '.' ∉ entry.1.toList := by
  rintro ⟨name, d⟩ member
  obtain ⟨entry, listed, rfl, -⟩ := mem_ofEntries.mp member
  obtain ⟨key, key_eq, plain⟩ := clear.plain entry listed
  rw [key_eq]
  exact plain

/-- Only mappings are normalized to groups. -/
theorem map_of_ofValue_eq_group {v : Value} {p : Payload} (group : ofValue v = .group p) :
    ∃ entries, v = .map entries ∧ p = ofEntries entries := by
  cases v with
  | map entries =>
    rw [ofValue] at group
    cases group
    exact ⟨entries, rfl, rfl⟩
  | _ => rw [ofValue] at group <;> cases group

/-- A path of keys is followed in every spelling. -/
theorem follow?_of_leadsTo {keys names : List String} {v w : Value} (path : LeadsTo keys v w)
    (clear : Clear v) (same : List.Forall₂ Text.SameLower names keys) :
    follow? (ofValue v) names = some (ofValue w) := by
  induction path generalizing names with
  | here v =>
    cases same
    rw [follow?]
  | inside entry rest ih =>
    cases same with
    | cons first others =>
      have found := find?_of_mem (apart_ofEntries clear.keys)
        (mem_ofEntries.mpr ⟨_, entry, rfl, rfl⟩) first
      rw [ofValue, follow?, found]
      exact ih (clear.inside entry) others

/-- A path that spells the keys to a value is followed to it. -/
theorem follow?_of_spells {path : String} {keys : List String} {v w : Value}
    (spelled : Spells path keys) (leads : LeadsTo keys v w) (clear : Clear v) :
    follow? (ofValue v) (pathNames path) = some (ofValue w) := by
  obtain ⟨names, someName, rfl, same⟩ := spelled
  rw [pathNames_intercalate someName (Text.plain_of_sameLower same (leads.plain clear))]
  exact follow?_of_leadsTo leads clear same

/-- What is found at the end of a path of names is the datum that a path of keys leads to. -/
theorem leadsTo_of_follow? {names : List String} {v : Value} {d : Datum} (clear : Clear v)
    (found : follow? (ofValue v) names = some d) :
    ∃ keys w, List.Forall₂ Text.SameLower names keys ∧ LeadsTo keys v w := by
  induction names generalizing v with
  | nil => exact ⟨[], v, .nil, .here v⟩
  | cons name rest ih =>
    cases datum : ofValue v with
    | group p =>
      obtain ⟨entries, rfl, rfl⟩ := map_of_ofValue_eq_group datum
      rw [datum, follow?] at found
      split at found
      · rename_i next nextFound
        obtain ⟨key, member, same⟩ := mem_of_find? nextFound
        obtain ⟨⟨k, u⟩, listed, key_eq, rfl⟩ := mem_ofEntries.mp member
        obtain ⟨text, text_eq, -⟩ := clear.keys.plain _ listed
        obtain ⟨keys, w, others, path⟩ := ih (clear.inside listed) found
        dsimp only at text_eq key_eq
        subst text_eq key_eq
        exact ⟨_ :: keys, w, .cons same others, .inside listed path⟩
      · cases found
    | _ =>
      rw [datum, follow?] at found
      · cases found
      · simp

end Datum

namespace Event

open Payload Value

variable {freshId : String} {e : Event} {record payload : List (Value × Value)}

theorem payload_of_ofValue (read : ofValue freshId (.map record) = .ok e)
    (given : Value.find? record "data" = some (.map payload)) :
    e.payload = Datum.ofEntries payload := by
  have normalized : Payload.ofValue (.map payload) = .ok e.payload :=
    Reading.of_field_of_find? given (readsFrom_of_ofEntries read).payload
  unfold Payload.ofValue at normalized
  dsimp only at normalized
  split at normalized
  · exact (Reading.ok.inj normalized).symm
  · cases normalized

/-- Lookup in an event whose data has clear keys at every level: a path that spells the keys to a
value is answered by that value, normalized and written as operators compare it, which fails only
where the value itself cannot be written. A path that spells the keys to no value, neither to a
single one nor to a mapping, is answered by none. The empty path and the name of the message are
apart. -/
theorem spelled_path_decides (read : ofValue freshId (.map record) = .ok e)
    (given : Value.find? record "data" = some (.map payload)) (clear : Clear (.map payload)) :
    (∀ path keys v, Spells path keys → LeadsTo keys (.map payload) v → path ≠ "" →
        Text.lower path ≠ messageField →
        e.lookUp path = (Datum.ofValue v).toValue.written) ∧
      ∀ path, (∀ keys v, Spells path keys → ¬LeadsTo keys (.map payload) v) →
        Text.lower path ≠ messageField → e.lookUp path = .ok none := by
  have reached (path : String) : e.payload.datum? path =
      follow? (Datum.ofValue (.map payload)) (pathNames path) := by
    rw [payload_of_ofValue read given, datum?_eq_follow? (Datum.plain_ofEntries clear.keys),
      Datum.ofValue]
  constructor
  · intro path keys v spelled leads nonempty named
    have found := (reached path).trans (Datum.follow?_of_spells spelled leads clear)
    rw [lookUp, if_neg nonempty, if_neg named, found]
  · intro path nowhere named
    by_cases nonempty : path = ""
    · rw [lookUp, if_pos nonempty]
    · rw [lookUp, if_neg nonempty, if_neg named, reached path]
      cases found : follow? (Datum.ofValue (.map payload)) (pathNames path) with
      | none => rfl
      | some d =>
        obtain ⟨keys, v, same, leads⟩ := Datum.leadsTo_of_follow? clear found
        have spelled : Spells path keys :=
          ⟨pathNames path, pathNames_ne_nil path, (intercalate_pathNames path).symm, same⟩
        exact absurd leads (nowhere keys v spelled)

theorem clear_nestedData : Clear nestedData := by
  have apart : ¬Text.SameLower "app" "retry" := by
    unfold Text.SameLower
    decide +kernel
  have app : Clear (.record [("codes", .list [.int 1, .text "a"])]) := by
    refine .group ⟨?_, List.pairwise_singleton _ _⟩ ?_
    · exact List.forall_mem_singleton.mpr ⟨"codes", rfl, by decide⟩
    · exact List.forall_mem_singleton.mpr (.single nofun)
  refine .group ⟨?_, List.pairwise_pair.mpr apart⟩ ?_
  · exact List.forall_mem_cons.mpr ⟨⟨"app", rfl, by decide⟩,
      List.forall_mem_singleton.mpr ⟨"retry", rfl, by decide⟩⟩
  · exact List.forall_mem_cons.mpr ⟨app, List.forall_mem_singleton.mpr (.single nofun)⟩

/-- The codes inside the app are found in capitals, and nothing is found behind the retry. -/
theorem app_codes_found :
    ofValue "" looseRecord = .ok looseEvent ∧
      looseEvent.lookUp "APP.Codes" = .ok (some "[1, 'a']") ∧
      looseEvent.lookUp "retry.app" = .ok none := by
  obtain ⟨found, missed⟩ :=
    spelled_path_decides ofValue_looseRecord (rfl : _ = some nestedData) clear_nestedData
  refine ⟨ofValue_looseRecord, ?_, ?_⟩
  · have app : Text.SameLower "APP" "app" := by unfold Text.SameLower; decide +kernel
    have codes : Text.SameLower "Codes" "codes" := by unfold Text.SameLower; decide +kernel
    have spelled : Spells "APP.Codes" ["app", "codes"] :=
      ⟨["APP", "Codes"], by decide, by decide, .cons app (.cons codes .nil)⟩
    have leads : LeadsTo ["app", "codes"] nestedData (.list [.int 1, .text "a"]) :=
      .inside List.mem_cons_self (.inside List.mem_cons_self (.here _))
    have text : (Datum.ofValue (.list [.int 1, .text "a"])).toValue.comparisonText =
        some "[1, 'a']" := by decide +kernel
    rw [found _ _ _ spelled leads (by decide) (by decide +kernel), ← text]
    rfl
  · refine missed _ (fun keys v spelled leads => ?_) (by decide +kernel)
    have followed : follow? (Datum.ofValue nestedData) (pathNames "retry.app") = some _ :=
      Datum.follow?_of_spells spelled leads clear_nestedData
    have nothing : (follow? (Datum.ofValue nestedData) (pathNames "retry.app")).isNone = true := by
      decide +kernel
    rw [followed] at nothing
    cases nothing

end Event

end EnrollmentDiagnosis
