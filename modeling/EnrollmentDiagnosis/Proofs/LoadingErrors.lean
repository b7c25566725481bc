import EnrollmentDiagnosis.Yaml.Load

set_option autoImplicit false

/-- An outcome with a value of one kind, or with an error of one kind. -/
def Except.Meets {ε α : Type} (outcome : Except ε α) (fails : ε → Prop) (holds : α → Prop) : Prop :=
  match outcome with
  | .ok a => holds a
  | .error e => fails e

namespace Except.Meets

variable {ε α β : Type} {fails fails' : ε → Prop} {holds holds' : α → Prop} {after : β → Prop}
  {outcome : Except ε α}

theorem mono (met : outcome.Meets fails holds) (failsToo : ∀ e, fails e → fails' e)
    (holdsToo : ∀ a, holds a → holds' a) : outcome.Meets fails' holds' := by
  cases outcome with
  | ok a => exact holdsToo a met
  | error e => exact failsToo e met

theorem bind {next : α → Except ε β} (met : outcome.Meets fails holds)
    (nextMet : ∀ a, holds a → (next a).Meets fails after) :
    (outcome >>= next).Meets fails after := by
  cases outcome with
  | ok a => exact nextMet a met
  | error e => exact met

theorem map {f : α → β} (met : outcome.Meets fails holds) (kept : ∀ a, holds a → after (f a)) :
    (outcome.map f).Meets fails after := by
  cases outcome with
  | ok a => exact kept a met
  | error e => exact met

theorem mapM {f : α → Except ε β} {l : List α} (met : ∀ a ∈ l, (f a).Meets fails after) :
    (l.mapM f).Meets fails (fun bs => ∀ b ∈ bs, after b) := by
  induction l with
  | nil =>
    rw [List.mapM_nil]
    exact fun b member => by cases member
  | cons a rest ih =>
    rw [List.mapM_cons]
    obtain ⟨first, others⟩ := List.forall_mem_cons.mp met
    refine first.bind fun b held => (ih others).bind fun bs heldToo => ?_
    exact List.forall_mem_cons.mpr ⟨held, heldToo⟩

end Except.Meets

namespace EnrollmentDiagnosis

namespace Yaml

namespace Node

/-- A node inside another one, which may be that one itself. -/
inductive Inside : Node → Node → Prop
  | self (n : Node) : Inside n n
  | item {n item : Node} {tag : Tag} {items : List Node} (member : item ∈ items)
      (inside : Inside n item) : Inside n (sequence tag items)
  | key {n k v : Node} {tag : Tag} {own : List (Node × Node)} (member : (k, v) ∈ own)
      (inside : Inside n k) : Inside n (mapping tag own)
  | value {n k v : Node} {tag : Tag} {own : List (Node × Node)} (member : (k, v) ∈ own)
      (inside : Inside n v) : Inside n (mapping tag own)

theorem Inside.trans {n middle root : Node} (inner : n.Inside middle) (outer : middle.Inside root) :
    n.Inside root := by
  induction outer with
  | self => exact inner
  | item member _ ih => exact .item member ih
  | key member _ ih => exact .key member ih
  | value member _ ih => exact .value member ih

variable {root : Node} {tag : Tag}

theorem Inside.items {items : List Node} (inside : (sequence tag items).Inside root) :
    ∀ item ∈ items, item.Inside root :=
  fun _ member => (Inside.item member (.self _)).trans inside

theorem Inside.entries {own : List (Node × Node)} (inside : (mapping tag own).Inside root) :
    ∀ entry ∈ own, entry.1.Inside root ∧ entry.2.Inside root :=
  fun _ member => ⟨(Inside.key member (.self _)).trans inside,
    (Inside.value member (.self _)).trans inside⟩

/-- True of nodes that are all inside another one. -/
def Covers (root : Node) (nodes : List Node) : Prop := ∀ n ∈ nodes, n.Inside root

theorem Covers.nil : root.Covers [] := fun _ member => by cases member

theorem Covers.append {first second : List Node} (inFirst : root.Covers first)
    (inSecond : root.Covers second) : root.Covers (first ++ second) :=
  List.forall_mem_append.mpr ⟨inFirst, inSecond⟩

/-- A node inside another one, or a key that was one before it lost its special meaning. -/
def Under (n root : Node) : Prop := n.Inside root ∨ ∃ text, n = .scalar .text text

theorem plainKey_under {k : Node} (inside : k.Inside root) : k.plainKey.Under root := by
  unfold plainKey
  split
  · exact .inr ⟨_, rfl⟩
  · exact .inl inside

/-- True of entries of mappings that are inside a node. -/
def CoversEntries (root : Node) (own : List (Node × Node)) : Prop :=
  ∀ entry ∈ own, entry.1.Under root ∧ entry.2.Inside root

theorem CoversEntries.nil : root.CoversEntries [] := fun _ member => by cases member

theorem CoversEntries.append {first second : List (Node × Node)}
    (inFirst : root.CoversEntries first) (inSecond : root.CoversEntries second) :
    root.CoversEntries (first ++ second) :=
  List.forall_mem_append.mpr ⟨inFirst, inSecond⟩

theorem flatEntries_cons (k v : Node) (rest : List (Node × Node)) :
    flatEntries ((k, v) :: rest) =
      if k.tag = .merge then do
        let merged ← mergedEntries v
        let given ← flatEntries rest
        return (merged ++ given.1, given.2)
      else (flatEntries rest).map fun given => (given.1, (k.plainKey, v) :: given.2) := by
  rw [flatEntries]
  split
  · cases mergedEntries v with
    | error e => rfl
    | ok merged => cases flatEntries rest <;> rfl
  · cases flatEntries rest <;> rfl

theorem mergedItems_mapping (tag : Tag) (own : List (Node × Node)) (rest : List Node) :
    mergedItems (mapping tag own :: rest) =
      flatEntries own >>= fun given => (mergedItems rest).map (· ++ (given.1 ++ given.2)) := by
  rw [mergedItems]
  cases flatEntries own <;> rfl

mutual

/-- Merging fails for what is malformed only, and gives entries from inside. -/
theorem flatEntries_meets {own : List (Node × Node)}
    (inside : ∀ entry ∈ own, entry.1.Inside root ∧ entry.2.Inside root) :
    (flatEntries own).Meets (· = .malformed)
      (fun given => root.CoversEntries given.1 ∧ root.CoversEntries given.2) := by
  match own with
  | [] =>
    rw [flatEntries]
    exact ⟨.nil, .nil⟩
  | (k, v) :: rest =>
    obtain ⟨⟨insideK, insideV⟩, others⟩ := List.forall_mem_cons.mp inside
    have later := flatEntries_meets others
    have merge := mergedEntries_meets insideV
    rw [flatEntries_cons]
    split
    · exact merge.bind fun merged held => later.bind fun given heldToo =>
        ⟨held.append heldToo.1, heldToo.2⟩
    · exact later.map fun given held =>
        ⟨held.1, List.forall_mem_cons.mpr ⟨⟨plainKey_under insideK, insideV⟩, held.2⟩⟩

theorem mergedEntries_meets {n : Node} (inside : n.Inside root) :
    (mergedEntries n).Meets (· = .malformed) root.CoversEntries := by
  match n with
  | mapping _ own =>
    rw [mergedEntries]
    exact (flatEntries_meets inside.entries).map fun given held => held.1.append held.2
  | sequence _ items =>
    rw [mergedEntries]
    exact mergedItems_meets inside.items
  | cycle _ =>
    rw [mergedEntries]
    exact CoversEntries.nil
  | scalar .. =>
    rw [mergedEntries]
    exact rfl

theorem mergedItems_meets {items : List Node} (inside : root.Covers items) :
    (mergedItems items).Meets (· = .malformed) root.CoversEntries := by
  match items with
  | [] =>
    rw [mergedItems]
    exact CoversEntries.nil
  | mapping _ own :: rest =>
    obtain ⟨first, others⟩ := List.forall_mem_cons.mp inside
    rw [mergedItems_mapping]
    exact (flatEntries_meets first.entries).bind fun given held =>
      (mergedItems_meets others).map fun more heldToo => heldToo.append (held.1.append held.2)
  | cycle true :: rest =>
    rw [mergedItems]
    exact mergedItems_meets (List.forall_mem_cons.mp inside).2
  | cycle false :: rest =>
    rw [mergedItems] <;> simp [Except.Meets]
  | sequence .. :: rest =>
    rw [mergedItems] <;> simp [Except.Meets]
  | scalar .. :: rest =>
    rw [mergedItems] <;> simp [Except.Meets]

end

/-- An error for which a tree of nodes is not read: something in it is malformed, or some node has a
text that is no value of its type. -/
inductive Refuses (root : Node) : LoadError → Prop
  | malformed : Refuses root .malformed
  | text {n : Node} {e : LoadError} (inside : n.Inside root) (refused : n.textValue = .error e) :
      Refuses root e

/-- Only a node inside is refused, and a node that is left for later is one. -/
theorem glance_meets {n : Node} (under : n.Under root) :
    n.glance.Meets root.Refuses root.Covers := by
  unfold glance
  rcases under with inside | ⟨text, rfl⟩
  · split
    · exact List.forall_mem_singleton.mpr inside
    · cases converted : n.textValue with
      | ok v => exact Covers.nil
      | error e => exact Refuses.text inside converted
  · exact Covers.nil

theorem glanceAll_meets {items : List Node} (inside : root.Covers items) :
    (glanceAll items).Meets root.Refuses root.Covers := by
  induction items with
  | nil => exact Covers.nil
  | cons item rest ih =>
    obtain ⟨first, others⟩ := List.forall_mem_cons.mp inside
    rw [glanceAll]
    exact (glance_meets (.inl first)).bind fun next held =>
      (ih others).bind fun more heldToo => held.append heldToo

theorem glanceEntries_meets {own : List (Node × Node)} (under : root.CoversEntries own) :
    (glanceEntries own).Meets root.Refuses root.Covers := by
  induction own with
  | nil => exact Covers.nil
  | cons entry rest ih =>
    obtain ⟨⟨underK, insideV⟩, others⟩ := List.forall_mem_cons.mp under
    rw [glanceEntries]
    refine (glance_meets underK).bind fun _ _ => ?_
    dsimp only
    split
    · exact Refuses.malformed
    · exact (glance_meets (.inl insideV)).bind fun next held =>
        (ih others).bind fun more heldToo => held.append heldToo

theorem glancePairs_meets {items : List Node} (inside : root.Covers items) :
    (glancePairs items).Meets root.Refuses root.Covers := by
  induction items with
  | nil => exact Covers.nil
  | cons item rest ih =>
    obtain ⟨first, others⟩ := List.forall_mem_cons.mp inside
    unfold glancePairs
    split
    · cases ‹_›
    · rename_i given
      cases given
      obtain ⟨insideK, insideV⟩ := first.entries _ List.mem_cons_self
      exact (glance_meets (.inl insideK)).bind fun next held =>
        (glance_meets (.inl insideV)).bind fun more heldToo =>
          (ih others).bind fun last heldLast => (held.append heldToo).append heldLast
    · exact Refuses.malformed

theorem entries_meets {own : List (Node × Node)} (inside : (mapping tag own).Inside root) :
    (entries own).Meets root.Refuses root.CoversEntries := by
  have merging : (entries own).Meets (· = .malformed) root.CoversEntries :=
    (flatEntries_meets inside.entries).map fun given held => held.1.append held.2
  refine merging.mono ?_ fun _ => id
  rintro _ rfl
  exact .malformed

theorem contents_meets {n : Node} (inside : n.Inside root) :
    n.contents.Meets root.Refuses root.Covers := by
  unfold contents
  split
  · exact Covers.nil
  · exact glanceAll_meets inside.items
  · exact (entries_meets inside).bind fun _ under => glanceEntries_meets under
  · exact (entries_meets inside).bind fun _ under => glanceEntries_meets under
  · exact glancePairs_meets inside.items
  · exact glancePairs_meets inside.items
  · exact Refuses.malformed

/-- The check of all levels of a tree fails only for a node of the tree. -/
theorem check_meets (fuel : Nat) {level : List Node} (inside : root.Covers level) :
    (check fuel level).Meets root.Refuses (fun _ => True) := by
  induction fuel generalizing level with
  | zero => exact trivial
  | succ fuel ih =>
    cases level with
    | nil => exact trivial
    | cons n rest =>
      unfold check
      refine (Except.Meets.mapM fun m member => contents_meets (inside m member)).bind
        fun next held => ih fun m member => ?_
      obtain ⟨part, given, found⟩ := List.mem_flatten.mp member
      exact held part given m found

end Node

/-- An error of a text that is not reported as a malformed document. -/
inductive Unfit (stack : Stack) (text : String) : LoadError → Prop
  /-- An escape stands for no character, or a version has too many digits. -/
  | written {e : SyntaxError} (found : Node.ofText? text = .error e) (other : e ≠ .malformed) :
    Unfit stack text e.toLoadError
  /-- A text in the document is no boolean, number or time although it is tagged as one. -/
  | tagged {root n : Node} {word : String} {e : LoadError}
    (read : Node.ofText? text = .ok (some root)) (inside : n.Inside root)
    (shown : n.text? = some word)
    (tag : n.tag ∈ [Tag.bool, .int, .float, .timestamp])
    (refused : scalarValue n.tag word = .error e) (other : e ≠ .malformed) : Unfit stack text e
  /-- A mapping in the document is tagged as a time. -/
  | timed {root : Node} {own : List (Node × Node)} (read : Node.ofText? text = .ok (some root))
    (inside : (Node.mapping .timestamp own).Inside root) : Unfit stack text .notText
  /-- The text is nested more deeply than the stack allows. -/
  | nested (exhausted : stack text = false) : Unfit stack text .stackExhausted

theorem bytesValue_error {word : String} {e : LoadError} (refused : bytesValue word = .error e) :
    e = .malformed := by
  unfold bytesValue at refused
  dsimp only at refused
  split at refused
  · exact (Except.error.inj refused).symm
  · split at refused
    · cases refused
    · exact (Except.error.inj refused).symm

theorem tag_of_scalarValue_error {tag : Tag} {word : String} {e : LoadError}
    (refused : scalarValue tag word = .error e) (other : e ≠ .malformed) :
    tag ∈ [Tag.bool, .int, .float, .timestamp] := by
  cases tag with
  | bool | int | float | timestamp => simp
  | null | text => cases refused
  | binary =>
    cases bytes : bytesValue word with
    | ok given => simp [scalarValue, bytes, Except.map] at refused
    | error e' =>
      rw [scalarValue, bytes] at refused
      cases refused
      exact absurd (bytesValue_error bytes) other
  | sequence | mapping | set | orderedMap | pairs | merge | value | other =>
    exact absurd (Except.error.inj refused).symm other

theorem unfit_of_textValue_error {stack : Stack} {text : String} {root n : Node} {e : LoadError}
    (read : Node.ofText? text = .ok (some root)) (inside : n.Inside root)
    (refused : n.textValue = .error e) (other : e ≠ .malformed) : Unfit stack text e := by
  unfold Node.textValue at refused
  split at refused
  · exact absurd (Except.error.inj refused).symm other
  · cases refused
    exact .timed read inside
  · exact .tagged read inside ‹_› (tag_of_scalarValue_error refused other) refused other

theorem unfit_of_refuses {stack : Stack} {text : String} {root : Node} {e : LoadError}
    (read : Node.ofText? text = .ok (some root)) (refused : root.Refuses e) :
    e = .malformed ∨ Unfit stack text e := by
  by_cases malformed : e = .malformed
  · exact .inl malformed
  · right
    cases refused with
    | malformed => exact absurd rfl malformed
    | text inside refused => exact unfit_of_textValue_error read inside refused malformed

theorem unfit_of_syntaxError {stack : Stack} {text : String} {e : SyntaxError}
    (found : Node.ofText? text = .error e) :
    e.toLoadError = .malformed ∨ Unfit stack text e.toLoadError := by
  cases e with
  | malformed => exact .inl rfl
  | characterOutOfRange | versionTooLong => exact .inr (.written found (by simp))

/-- A text that is not read is malformed or unfit. -/
theorem load_meets (stack : Stack) (text : String) :
    (load text).Meets (fun e => e = .malformed ∨ Unfit stack text e) (fun _ => True) := by
  unfold load
  cases read : Node.ofText? text with
  | error e => exact unfit_of_syntaxError read
  | ok root? =>
    cases root? with
    | none => exact trivial
    | some root =>
      have checked : (root.glance >>= Node.check (root.depth + 1)).Meets root.Refuses
          (fun _ => True) :=
        (Node.glance_meets (.inl (.self root))).bind fun _ inside => Node.check_meets _ inside
      show ((root.glance >>= fun level => Node.check (root.depth + 1) level >>= fun _ =>
        .ok (root.toValue (root.depth + 1))) : Except LoadError Value).Meets _ _
      rw [← bind_assoc]
      exact (checked.mono (fun _ => unfit_of_refuses read) fun _ => id).bind fun _ _ => trivial

theorem unfit_of_loadOn_error {stack : Stack} {text : String} {e : LoadError}
    (failed : loadOn stack text = .error e) (other : e ≠ .malformed) : Unfit stack text e := by
  have met := load_meets stack text
  unfold loadOn at failed
  split at failed
  · rw [failed] at met
    exact met.resolve_left other
  · rename_i exhausted
    cases failed
    exact .nested (by simpa using exhausted)

end Yaml

end EnrollmentDiagnosis
