import EnrollmentDiagnosis.Proofs.TenantRules
import Mathlib.Data.List.Induction
import Mathlib.Data.List.Nodup

set_option autoImplicit false

namespace EnrollmentDiagnosis.RuleBook

/-- A change that a tenant makes to its rules. -/
inductive Change where
  | add (rule : Rule)
  | remove (ruleId : String)
  | choose (ruleId : String) (enabled : Bool)
  deriving DecidableEq

namespace Change

/-- What a change writes under an identity: the rule that is added, or that there is none. -/
def writes? (ruleId : String) : Change → Option (Option Rule)
  | add rule => if rule.id = ruleId then some (some { rule with isBuiltin := false }) else none
  | remove removed => if removed = ruleId then some none else none
  | choose _ _ => none

/-- What a change decides about the rule with an identity. -/
def chooses? (ruleId : String) : Change → Option Bool
  | choose chosen enabled => if chosen = ruleId then some enabled else none
  | _ => none

def removes (ruleId : String) : Change → Bool
  | remove removed => removed == ruleId
  | _ => false

/-- The tenant's rule with an identity after some changes: what was written last. -/
def current? (history : List Change) (ruleId : String) : Option Rule :=
  (history.reverse.findSome? (writes? ruleId)).join

/-- The tenant's last choice about an identity. -/
def choice? (history : List Change) (ruleId : String) : Option Bool :=
  history.reverse.findSome? (chooses? ruleId)

/-- True at a position where a rule is added that is not there yet, if it is not removed after that
position: where its identity was first added since it was last removed. -/
def opensAt (history : List Change) (rule : Rule) (position : Nat) : Bool :=
  (current? (history.take position) rule.id).isNone &&
    !(history.drop (position + 1)).any (removes rule.id)

/-- The rule that has its place at a position. -/
def ruleAt? (history : List Change) : Change → Nat → Option Rule
  | add rule, position => if opensAt history rule position then current? history rule.id else none
  | _, _ => none

/-- The tenant's own rules, each at the position where it was first added since it was last
removed. -/
def ownRules (history : List Change) : List Rule :=
  history.zipIdx.filterMap fun entry => ruleAt? history entry.1 entry.2

/-- A rule, enabled or not by the tenant's last choice about it. -/
def chosen (history : List Change) (rule : Rule) : Rule :=
  { rule with enabled := (choice? history rule.id).getD rule.enabled }

/-- The rules that count after some changes: the shared rules in the place of which the tenant has
none, then the tenant's own. -/
def rulesAfter (history : List Change) (shared : List Rule) : List Rule :=
  let unreplaced := shared.filter fun rule => (current? history rule.id).isNone
  (unreplaced ++ ownRules history).map (chosen history)

theorem current?_concat (history : List Change) (last : Change) (ruleId : String) :
    current? (history ++ [last]) ruleId =
      (last.writes? ruleId).getD (current? history ruleId) := by
  unfold current?
  rw [List.reverse_concat, List.findSome?_cons]
  cases last.writes? ruleId <;> rfl

theorem choice?_concat (history : List Change) (last : Change) (ruleId : String) :
    choice? (history ++ [last]) ruleId =
      (last.chooses? ruleId).or (choice? history ruleId) := by
  unfold choice?
  rw [List.reverse_concat, List.findSome?_cons]
  cases last.chooses? ruleId <;> rfl

section Written

variable (rule : Rule) {written ruleId : String}

@[simp] theorem writes?_add_own :
    (add rule).writes? rule.id = some (some { rule with isBuiltin := false }) := by
  simp only [writes?, ↓reduceIte]

theorem writes?_add_other (other : rule.id ≠ ruleId) : (add rule).writes? ruleId = none := by
  simp only [writes?, other, ↓reduceIte]

@[simp] theorem writes?_remove_own : (remove ruleId).writes? ruleId = some none := by
  simp only [writes?, ↓reduceIte]

theorem writes?_remove_other (other : written ≠ ruleId) :
    (remove written).writes? ruleId = none := by
  simp only [writes?, other, ↓reduceIte]

@[simp] theorem writes?_choose (enabled : Bool) : (choose written enabled).writes? ruleId = none :=
  rfl

end Written

/-- A change that writes a rule adds one with the identity. -/
theorem add_of_writes? {change : Change} {ruleId : String} {rule : Rule}
    (wrote : change.writes? ruleId = some (some rule)) :
    ∃ new, change = add new ∧ new.id = ruleId ∧ rule = { new with isBuiltin := false } := by
  cases change with
  | add new =>
    by_cases same : new.id = ruleId
    · subst same
      rw [writes?_add_own] at wrote
      cases wrote
      exact ⟨new, rfl, rfl, rfl⟩
    · rw [writes?_add_other new same] at wrote
      cases wrote
  | remove removed =>
    by_cases same : removed = ruleId
    · subst same
      rw [writes?_remove_own] at wrote
      cases wrote
    · rw [writes?_remove_other same] at wrote
      cases wrote
  | choose chosen enabled => cases wrote

theorem id_of_writes? {change : Change} {ruleId : String} {rule : Rule}
    (wrote : change.writes? ruleId = some (some rule)) : rule.id = ruleId := by
  obtain ⟨new, -, sameId, rfl⟩ := add_of_writes? wrote
  exact sameId

/-- A rule stands under its own identity. -/
theorem id_of_current? {history : List Change} {ruleId : String} {rule : Rule}
    (current : current? history ruleId = some rule) : rule.id = ruleId := by
  unfold current? at current
  have written := Option.join_eq_some_iff.mp current
  obtain ⟨change, -, wrote⟩ := List.exists_of_findSome?_eq_some written
  exact id_of_writes? wrote

/-- A change that does not remove a rule leaves one under its identity. -/
theorem getD_writes?_isSome {change : Change} {ruleId : String}
    (kept : change.removes ruleId = false) {before : Option Rule} (present : before.isSome = true) :
    ((change.writes? ruleId).getD before).isSome = true := by
  cases change with
  | add new =>
    by_cases same : new.id = ruleId
    · subst same
      rw [writes?_add_own, Option.getD_some, Option.isSome_some]
    · rwa [writes?_add_other new same, Option.getD_none]
  | remove removed =>
    have other : removed ≠ ruleId := by simpa only [removes, beq_eq_false_iff_ne] using kept
    rwa [writes?_remove_other other, Option.getD_none]
  | choose chosen enabled => exact present

/-- A rule stays through changes none of which removes it. -/
theorem current?_append_isSome {earlier later : List Change} {ruleId : String}
    (present : (current? earlier ruleId).isSome = true)
    (kept : later.any (removes ruleId) = false) :
    (current? (earlier ++ later) ruleId).isSome = true := by
  induction later generalizing earlier with
  | nil => rwa [List.append_nil]
  | cons change later ih =>
    simp only [List.any_cons, Bool.or_eq_false_iff] at kept
    have step : (current? (earlier ++ [change]) ruleId).isSome = true := by
      rw [current?_concat]
      exact getD_writes?_isSome kept.1 present
    rw [List.append_cons]
    exact ih step kept.2

/-- Where a rule has its place, there is one. -/
theorem current?_isSome_of_opensAt {history : List Change} {rule : Rule} {position : Nat}
    (place : (add rule, position) ∈ history.zipIdx) (opens : opensAt history rule position = true) :
    (current? history rule.id).isSome = true := by
  have found : history[position]? = some (add rule) := List.mem_zipIdx_iff_getElem?.mp place
  obtain ⟨inside, there⟩ := List.getElem?_eq_some_iff.mp found
  have kept : (history.drop (position + 1)).any (removes rule.id) = false := by
    simp only [opensAt, Bool.and_eq_true, Bool.not_eq_true'] at opens
    exact opens.2
  have added : (current? (history.take (position + 1)) rule.id).isSome = true := by
    rw [List.take_succ_eq_append_getElem inside, there, current?_concat]
    simp only [writes?, ↓reduceIte, Option.getD_some, Option.isSome_some]
  have stays := current?_append_isSome added kept
  rwa [List.take_append_drop] at stays

/-- What a change makes of one of the tenant's rules. -/
def revise (last : Change) (old : Rule) : Option Rule :=
  (last.writes? old.id).getD (some old)

theorem opensAt_concat {history : List Change} {position : Nat} (inside : position < history.length)
    (last : Change) (rule : Rule) :
    opensAt (history ++ [last]) rule position =
      (opensAt history rule position && !last.removes rule.id) := by
  have taken : (history ++ [last]).take position = history.take position :=
    List.take_append_of_le_length (by omega)
  have dropped : (history ++ [last]).drop (position + 1) = history.drop (position + 1) ++ [last] :=
    List.drop_append_of_le_length (by omega)
  simp only [opensAt, taken, dropped, List.any_append, List.any_cons, List.any_nil, Bool.or_false,
    Bool.not_or, Bool.and_assoc]

/-- A later change makes of the rule at a position what it makes of the rule. -/
theorem ruleAt?_concat {history : List Change} {entry : Change × Nat}
    (place : entry ∈ history.zipIdx) (last : Change) :
    ruleAt? (history ++ [last]) entry.1 entry.2 =
      (ruleAt? history entry.1 entry.2).bind last.revise := by
  obtain ⟨change, position⟩ := entry
  have inside := List.snd_lt_of_mem_zipIdx place
  cases change with
  | remove removed => rfl
  | choose chosen enabled => rfl
  | add rule =>
    simp only [ruleAt?, opensAt_concat (by simpa using inside) last rule]
    cases opens : opensAt history rule position with
    | false => simp
    | true =>
      obtain ⟨old, current⟩ := Option.isSome_iff_exists.mp (current?_isSome_of_opensAt place opens)
      have sameId : old.id = rule.id := id_of_current? current
      rw [current?_concat]
      simp only [Bool.true_and, current, ↓reduceIte, Option.bind_some, revise, sameId]
      cases last with
      | add new => simp [removes]
      | remove removed =>
        by_cases same : removed = rule.id
        · simp [removes, writes?, same]
        · simp [removes, writes?, same]
      | choose chosen enabled => simp [removes]

theorem ownRules_concat (history : List Change) (last : Change) :
    ownRules (history ++ [last]) = (ownRules history).filterMap last.revise ++
      (ruleAt? (history ++ [last]) last history.length).toList := by
  have before : history.zipIdx.filterMap (fun entry =>
      ruleAt? (history ++ [last]) entry.1 entry.2) =
        (ownRules history).filterMap last.revise := by
    rw [ownRules, List.filterMap_filterMap]
    exact List.filterMap_congr fun entry place => ruleAt?_concat place last
  rw [ownRules, List.zipIdx_append, List.filterMap_append, before, List.zipIdx_singleton,
    Nat.zero_add]
  refine congrArg ((ownRules history).filterMap last.revise ++ ·) ?_
  rw [List.filterMap_cons]
  cases ruleAt? (history ++ [last]) last history.length <;> rfl

/-- A rule that is added takes a new place at the end, unless one stands under its identity. -/
theorem ruleAt?_last_add (history : List Change) (rule : Rule) :
    ruleAt? (history ++ [add rule]) (add rule) history.length =
      if (current? history rule.id).isNone then some { rule with isBuiltin := false }
      else none := by
  have before : (history ++ [add rule]).take history.length = history := List.take_left
  have behind : (history ++ [add rule]).drop (history.length + 1) = [] :=
    List.drop_of_length_le (by simp)
  simp only [ruleAt?, opensAt, before, behind, List.any_nil, Bool.not_false, Bool.and_true,
    current?_concat, writes?_add_own, Option.getD_some]

theorem revise_own {last : Change} {old : Rule} {written : Option Rule}
    (wrote : last.writes? old.id = some written) : last.revise old = written := by
  rw [revise, wrote, Option.getD_some]

theorem revise_other {last : Change} {old : Rule} (untouched : last.writes? old.id = none) :
    last.revise old = some old := by
  rw [revise, untouched, Option.getD_none]

/-- A revised rule keeps its identity. -/
theorem id_of_revise {last : Change} {old new : Rule} (revised : last.revise old = some new) :
    new.id = old.id := by
  cases wrote : last.writes? old.id with
  | none =>
    rw [revise_other wrote] at revised
    cases revised
    rfl
  | some written =>
    rw [revise_own wrote] at revised
    subst revised
    exact id_of_writes? wrote

/-- A new place is only taken for a rule that was not there. -/
theorem absent_of_ruleAt?_last {history : List Change} {last : Change} {rule : Rule}
    (opened : ruleAt? (history ++ [last]) last history.length = some rule) :
    current? history rule.id = none ∧ last.writes? rule.id = some (some rule) := by
  cases last with
  | add new =>
    rw [ruleAt?_last_add] at opened
    split at opened
    · rename_i absent
      cases opened
      exact ⟨Option.isNone_iff_eq_none.mp absent, writes?_add_own new⟩
    · cases opened
  | remove removed => cases opened
  | choose chosen enabled => cases opened

/-- The tenant's own rules are those that stand under their identities. -/
theorem mem_ownRules_iff (history : List Change) (rule : Rule) :
    rule ∈ ownRules history ↔ current? history rule.id = some rule := by
  induction history using List.reverseRecOn generalizing rule with
  | nil => simp [ownRules, current?]
  | append_singleton history last ih =>
    rw [ownRules_concat, List.mem_append, List.mem_filterMap, Option.mem_toList, current?_concat]
    constructor
    · rintro (⟨old, member, revised⟩ | opened)
      · rw [id_of_revise revised, (ih old).mp member]
        exact revised
      · rw [(absent_of_ruleAt?_last opened).2, Option.getD_some]
    · intro current
      cases before : current? history rule.id with
      | some old =>
        have sameId : old.id = rule.id := id_of_current? before
        refine .inl ⟨old, (ih old).mpr (sameId.symm ▸ before), ?_⟩
        rw [revise, sameId, ← before]
        exact current
      | none =>
        have wrote : last.writes? rule.id = some (some rule) := by
          rw [before] at current
          cases written : last.writes? rule.id with
          | none =>
            rw [written] at current
            cases current
          | some _ =>
            rw [written] at current
            exact congrArg some current
        obtain ⟨new, rfl, sameId, rfl⟩ := add_of_writes? wrote
        refine .inr ?_
        rw [ruleAt?_last_add, sameId, before]
        rfl

/-- A rule that is replaced keeps its place, and one that is removed and added again comes last. -/
example :
    let rule (id title : String) : Change := add { (default : Rule) with id := id, title := title }
    (ownRules [rule "a" "first", rule "b" "first", rule "c" "first", rule "b" "second", remove "a",
      rule "a" "second"]).map (fun rule => (rule.id, rule.title)) =
        [("b", "second"), ("c", "first"), ("a", "second")] := by decide

theorem revised_ids_sublist (last : Change) (rules : List Rule) :
    ((rules.filterMap last.revise).map (·.id)).Sublist (rules.map (·.id)) := by
  induction rules with
  | nil => exact List.Sublist.refl _
  | cons old rest ih =>
    cases revised : last.revise old with
    | none =>
      rw [List.filterMap_cons_none revised]
      exact ih.cons old.id
    | some new =>
      rw [List.filterMap_cons_some revised, List.map_cons, List.map_cons, id_of_revise revised]
      exact ih.cons_cons old.id

/-- No two of the tenant's own rules have the same identity. -/
theorem ownRules_ids_nodup (history : List Change) :
    ((ownRules history).map (·.id)).Nodup := by
  induction history using List.reverseRecOn with
  | nil => exact List.nodup_nil
  | append_singleton history last ih =>
    have sublist := revised_ids_sublist last (ownRules history)
    rw [ownRules_concat, List.map_append]
    cases opened : ruleAt? (history ++ [last]) last history.length with
    | none =>
      rw [Option.toList_none, List.map_nil, List.append_nil]
      exact ih.sublist sublist
    | some rule =>
      have absent : rule.id ∉ (ownRules history).map (·.id) := by
        intro present
        obtain ⟨old, member, sameId⟩ := List.mem_map.mp present
        have current := (mem_ownRules_iff history old).mp member
        rw [sameId, (absent_of_ruleAt?_last opened).1] at current
        cases current
      rw [Option.toList_some, List.map_singleton]
      refine List.Nodup.append (ih.sublist sublist) (List.nodup_singleton _) ?_
      intro ruleId revised new
      rw [List.mem_singleton.mp new] at revised
      exact absent (sublist.subset revised)

/-- Among rules of different identities, only the rule itself has its identity. -/
theorem filter_id_eq {rules : List Rule} (distinct : (rules.map (·.id)).Nodup) {rule : Rule}
    (member : rule ∈ rules) : rules.filter (·.id == rule.id) = [rule] := by
  induction rules with
  | nil => cases member
  | cons first rest ih =>
    obtain ⟨fresh, distinctLater⟩ := List.nodup_cons.mp distinct
    rcases List.mem_cons.mp member with rfl | later
    · have noOther : rest.filter (·.id == rule.id) = [] := by
        refine List.filter_eq_nil_iff.mpr fun other present same => fresh ?_
        exact List.mem_map.mpr ⟨other, present, eq_of_beq same⟩
      simp only [List.filter_cons, beq_self_eq_true, ↓reduceIte, noOther]
    · have apart : first.id ≠ rule.id := fun same =>
        fresh (List.mem_map.mpr ⟨rule, later, same.symm⟩)
      simp only [List.filter_cons, beq_eq_false_iff_ne.mpr apart, Bool.false_eq_true, ↓reduceIte,
        ih distinctLater later]

/-- There is a rule under an identity when one of the tenant's own rules has it. -/
theorem mem_ids_iff (history : List Change) (ruleId : String) :
    ruleId ∈ (ownRules history).map (·.id) ↔ (current? history ruleId).isSome = true := by
  rw [List.mem_map, Option.isSome_iff_exists]
  constructor
  · rintro ⟨rule, member, rfl⟩
    exact ⟨rule, (mem_ownRules_iff history rule).mp member⟩
  · rintro ⟨rule, current⟩
    have sameId := id_of_current? current
    exact ⟨rule, (mem_ownRules_iff history rule).mpr (sameId.symm ▸ current), sameId⟩

theorem filterMap_revise_of_untouched {last : Change} {rules : List Rule}
    (untouched : ∀ old ∈ rules, last.writes? old.id = none) :
    rules.filterMap last.revise = rules := by
  rw [List.filterMap_congr (g := some) fun old member => revise_other (untouched old member)]
  exact List.filterMap_some

/-- A rule that is put among rules of different identities revises them, or stands at the end. -/
theorem putOwn_eq {rules : List Rule} (distinct : (rules.map (·.id)).Nodup) (rule : Rule) :
    Catalogue.putOwn rules { rule with isBuiltin := false } =
      rules.filterMap (add rule).revise ++
        if rule.id ∈ rules.map (·.id) then [] else [{ rule with isBuiltin := false }] := by
  induction rules with
  | nil => rfl
  | cons old rest ih =>
    obtain ⟨fresh, distinct⟩ := List.nodup_cons.mp distinct
    by_cases same : old.id = rule.id
    · have wrote : (add rule).writes? old.id = some (some { rule with isBuiltin := false }) := by
        rw [same, writes?_add_own]
      have untouched : rest.filterMap (add rule).revise = rest := by
        refine filterMap_revise_of_untouched fun other member => writes?_add_other rule ?_
        intro repeated
        exact fresh (List.mem_map.mpr ⟨other, member, repeated.symm.trans same.symm⟩)
      rw [List.filterMap_cons_some (revise_own wrote), untouched]
      simp only [Catalogue.putOwn, same, ↓reduceIte, List.map_cons, List.mem_cons, true_or,
        List.append_nil]
    · have different : rule.id ≠ old.id := fun equal => same equal.symm
      rw [List.filterMap_cons_some (revise_other (writes?_add_other rule different))]
      simp only [Catalogue.putOwn, same, ↓reduceIte, ih distinct, List.map_cons, List.mem_cons,
        different, false_or, List.cons_append]

theorem ownRules_add (history : List Change) (rule : Rule) :
    ownRules (history ++ [add rule]) =
      Catalogue.putOwn (ownRules history) { rule with isBuiltin := false } := by
  rw [ownRules_concat, ruleAt?_last_add, putOwn_eq (ownRules_ids_nodup history)]
  have present := mem_ids_iff history rule.id
  cases current : current? history rule.id with
  | none =>
    rw [current] at present
    have absent : rule.id ∉ (ownRules history).map (·.id) := by simpa using present
    rw [if_neg absent]
    rfl
  | some old =>
    rw [current] at present
    rw [if_pos (present.mpr rfl)]
    rfl

theorem ownRules_remove (history : List Change) (ruleId : String) :
    ownRules (history ++ [remove ruleId]) =
      (ownRules history).filter fun rule => !rule.id == ruleId := by
  have revised : ∀ old : Rule, (remove ruleId).revise old =
      Option.guard (fun rule => !rule.id == ruleId) old := by
    intro old
    by_cases same : ruleId = old.id
    · subst same
      rw [revise_own writes?_remove_own]
      simp [Option.guard]
    · have different : old.id ≠ ruleId := fun equal => same equal.symm
      rw [revise_other (writes?_remove_other same)]
      simp [Option.guard, different]
  rw [ownRules_concat, List.filterMap_congr fun old _ => revised old, List.filterMap_eq_filter]
  exact List.append_nil _

theorem ownRules_choose (history : List Change) (ruleId : String) (enabled : Bool) :
    ownRules (history ++ [choose ruleId enabled]) = ownRules history := by
  rw [ownRules_concat, filterMap_revise_of_untouched fun _ _ => rfl]
  exact List.append_nil _

theorem current?_remove_own (history : List Change) (ruleId : String) :
    current? (history ++ [remove ruleId]) ruleId = none := by
  rw [current?_concat, writes?_remove_own, Option.getD_some]

theorem chosen_remove (history : List Change) (ruleId : String) :
    chosen (history ++ [remove ruleId]) = chosen history := by
  funext rule
  simp only [chosen, choice?_concat, chooses?, Option.none_or]

/-- When a rule of the tenant's own is removed, the shared rules of its identity count again. -/
theorem rulesAfter_remove_own (history : List Change) (ruleId : String) (shared : List Rule) :
    (rulesAfter (history ++ [remove ruleId]) shared).filter (·.id == ruleId) =
      (shared.filter (·.id == ruleId)).map (chosen history) := by
  have noOwn : (ownRules (history ++ [remove ruleId])).filter (·.id == ruleId) = [] := by
    rw [ownRules_remove, List.filter_filter]
    simp
  have unreplaced : ∀ rule ∈ shared,
      ((rule.id == ruleId) && (current? (history ++ [remove ruleId]) rule.id).isNone) =
        (rule.id == ruleId) := by
    intro rule _
    by_cases same : rule.id = ruleId
    · rw [same, current?_remove_own]
      simp
    · simp [same]
  have sameIds : (fun rule : Rule => rule.id == ruleId) ∘ chosen history =
      fun rule => rule.id == ruleId := rfl
  rw [rulesAfter, chosen_remove, List.filter_map, sameIds, List.filter_append, noOwn,
    List.append_nil, List.filter_filter, List.filter_congr unreplaced]

theorem current?_adds_other (history : List Change) {rules : List Rule} {ruleId : String}
    (other : ruleId ∉ rules.map (·.id)) :
    current? (history ++ rules.map add) ruleId = current? history ruleId := by
  induction rules generalizing history with
  | nil => rw [List.map_nil, List.append_nil]
  | cons rule rest ih =>
    have apart : ruleId ≠ rule.id := fun same => other (same ▸ List.mem_cons_self)
    have otherLater : ruleId ∉ rest.map (·.id) := fun later =>
      other (List.mem_cons_of_mem rule.id later)
    rw [List.map_cons, List.append_cons, ih _ otherLater, current?_concat,
      writes?_add_other rule (Ne.symm apart), Option.getD_none]

/-- Each of several rules of different identities that are added stands under its own. -/
theorem current?_adds_own (history : List Change) {rules : List Rule}
    (distinct : (rules.map (·.id)).Nodup) {rule : Rule} (member : rule ∈ rules) :
    current? (history ++ rules.map add) rule.id = some { rule with isBuiltin := false } := by
  induction rules generalizing history with
  | nil => cases member
  | cons first rest ih =>
    obtain ⟨fresh, distinctLater⟩ := List.nodup_cons.mp distinct
    rw [List.map_cons, List.append_cons]
    rcases List.mem_cons.mp member with rfl | later
    · rw [current?_adds_other _ fresh, current?_concat, writes?_add_own, Option.getD_some]
    · exact ih _ distinctLater later

theorem choice?_adds (history : List Change) (rules : List Rule) (ruleId : String) :
    choice? (history ++ rules.map add) ruleId = choice? history ruleId := by
  induction rules generalizing history with
  | nil => rw [List.map_nil, List.append_nil]
  | cons rule rest ih =>
    rw [List.map_cons, List.append_cons, ih, choice?_concat]
    rfl

/-- A rule of the tenant's own is the only one that counts under its identity. -/
theorem rulesAfter_own {history : List Change} {rule : Rule} (shared : List Rule)
    (current : current? history rule.id = some rule) :
    (rulesAfter history shared).filter (·.id == rule.id) = [chosen history rule] := by
  have sameIds : (fun other : Rule => other.id == rule.id) ∘ chosen history =
      fun other => other.id == rule.id := rfl
  have replaced : ∀ other ∈ shared,
      ((other.id == rule.id) && (current? history other.id).isNone) = false := by
    intro other _
    by_cases same : other.id = rule.id
    · simp [same, current]
    · simp [same]
  have noShared : (shared.filter fun other => (current? history other.id).isNone).filter
      (·.id == rule.id) = [] := by
    rw [List.filter_filter, List.filter_congr replaced, List.filter_false]
  have alone : (ownRules history).filter (·.id == rule.id) = [rule] :=
    filter_id_eq (ownRules_ids_nodup history) ((mem_ownRules_iff history rule).mpr current)
  rw [rulesAfter, List.filter_map, sameIds, List.filter_append, noShared, alone]
  rfl

end Change

namespace Catalogue

open Change

/-- A catalogue has the rules and the choices of a tenant that a history tells. -/
structure Tells (tenant : String) (history : List Change) (catalogue : Catalogue) : Prop where
  rules : catalogue.rulesOf tenant = ownRules history
  choices : ∀ ruleId, catalogue.choices.lookup (tenant, ruleId) = choice? history ruleId

variable {tenant : String} {history : List Change} {catalogue : Catalogue}

theorem ofSettings_tells (settings : CatalogueSettings) (tenant : String) :
    (ofSettings settings).Tells tenant [] := ⟨rfl, fun _ => rfl⟩

theorem Tells.withContents {later : Catalogue} (tells : catalogue.Tells tenant history)
    (same : later.SameContents catalogue) : later.Tells tenant history := by
  refine ⟨?_, fun ruleId => ?_⟩
  · rw [rulesOf, same.tenantRules, ← rulesOf, tells.rules]
  · rw [same.choices, tells.choices]

/-- Changes of another tenant are not told. -/
theorem Tells.ofOther {owner : String} {change : Catalogue → Catalogue}
    (tells : catalogue.Tells tenant history) (changes : OwnChange owner change)
    (other : tenant ≠ owner) : (change catalogue).Tells tenant history := by
  refine ⟨?_, fun ruleId => ?_⟩
  · rw [changes.otherRules catalogue tenant other, tells.rules]
  · rw [changes.otherChoices catalogue tenant ruleId other, tells.choices]

theorem Tells.addRule (tells : catalogue.Tells tenant history) (rule : Rule) :
    (catalogue.addRule tenant rule).Tells tenant (history ++ [add rule]) := by
  refine ⟨?_, fun ruleId => ?_⟩
  · rw [rulesOf_eq, Catalogue.addRule, ownedRules_putRule_own, ← rulesOf_eq, tells.rules,
      ownRules_add]
  · rw [choice?_concat]
    exact tells.choices ruleId

theorem Tells.addRules (tells : catalogue.Tells tenant history) (rules : List Rule) :
    (rules.foldl (fun c rule => c.addRule tenant rule) catalogue).Tells tenant
      (history ++ rules.map add) := by
  induction rules generalizing catalogue history with
  | nil => rwa [List.map_nil, List.append_nil]
  | cons rule rest ih =>
    rw [List.map_cons, List.append_cons]
    exact ih (tells.addRule rule)

theorem Tells.removeRule (tells : catalogue.Tells tenant history) (ruleId : String) :
    (catalogue.removeRule tenant ruleId).Tells tenant (history ++ [remove ruleId]) := by
  refine ⟨?_, fun other => ?_⟩
  · rw [rulesOf_removeRule_own, tells.rules, ownRules_remove]
  · rw [choice?_concat]
    exact tells.choices other

theorem Tells.choose (tells : catalogue.Tells tenant history) (ruleId : String) (enabled : Bool) :
    (catalogue.choose tenant ruleId enabled).Tells tenant
      (history ++ [.choose ruleId enabled]) := by
  refine ⟨?_, fun other => ?_⟩
  · rw [ownRules_choose]
    exact tells.rules
  · rw [choice?_concat, ← tells.choices]
    by_cases same : ruleId = other
    · subst same
      simp [Catalogue.choose, chooses?]
    · have apart : ((tenant, other) == (tenant, ruleId)) = false := by
        simp only [beq_eq_false_iff_ne, ne_eq, Prod.mk.injEq, true_and]
        exact fun equal => same equal.symm
      simp only [Catalogue.choose, List.lookup_cons, apart, chooses?, same, ↓reduceIte,
        Option.none_or]

/-- A tenant has a rule of its own under the identities under which one stands. -/
theorem Tells.hasRule (tells : catalogue.Tells tenant history) (ruleId : String) :
    catalogue.hasRule tenant ruleId = (current? history ruleId).isSome := by
  rw [Bool.eq_iff_iff, ← mem_ids_iff, Catalogue.hasRule, tells.rules]
  simp only [List.any_eq_true, beq_iff_eq, List.mem_map]

/-- The rules that count for a tenant are those that its history tells. -/
theorem Tells.effective (tells : catalogue.Tells tenant history) (shared : List Rule) :
    catalogue.effective tenant shared = rulesAfter history shared := by
  have unreplaced : ∀ rule : Rule,
      (!(catalogue.rulesOf tenant).any fun replacement => replacement.id == rule.id) =
        (current? history rule.id).isNone := by
    intro rule
    have same : ((catalogue.rulesOf tenant).any fun replacement => replacement.id == rule.id) =
        (current? history rule.id).isSome := tells.hasRule rule.id
    rw [same, Option.not_isSome]
  have chosen : catalogue.withChoice tenant = Change.chosen history := by
    funext rule
    rw [withChoice, tells.choices, Change.chosen]
  simp only [Catalogue.effective, unreplaced]
  rw [chosen, tells.rules, rulesAfter]

end Catalogue

end EnrollmentDiagnosis.RuleBook
