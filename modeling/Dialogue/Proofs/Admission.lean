import Dialogue.Pattern.Reader
import Dialogue.Proofs.Registration
import Dialogue.Workflow.Directory
import Mathlib.Data.List.Basic
import Mathlib.Data.List.TakeWhile

namespace Dialogue

section Entries

variable {α β γ ι : Type} {D D' : α → β → Prop} {l l' : List β}

/-- Whether a list has one entry for each place with a defect, and no others. -/
def EntryForEach (D : α → β → Prop) (l : List β) : Prop :=
  ∃ entries : List (α × β), (entries.map Prod.fst).Nodup ∧
    (∀ p v, (p, v) ∈ entries ↔ D p v) ∧ entries.map Prod.snd = l

namespace EntryForEach

theorem mem_iff (h : EntryForEach D l) {v : β} : v ∈ l ↔ ∃ p, D p v := by
  obtain ⟨entries, -, hmem, rfl⟩ := h
  simp [← hmem]

theorem eq_nil_iff (h : EntryForEach D l) : l = [] ↔ ∀ p v, ¬ D p v := by
  rw [List.eq_nil_iff_forall_not_mem]
  constructor
  · intro hnil p v hv
    exact hnil v (h.mem_iff.2 ⟨p, hv⟩)
  · rintro hnone v hv
    obtain ⟨p, hp⟩ := h.mem_iff.1 hv
    exact hnone p v hp

theorem congr (h : EntryForEach D l) (hD : ∀ p v, D p v ↔ D' p v) : EntryForEach D' l := by
  obtain ⟨entries, hnodup, hmem, hl⟩ := h
  exact ⟨entries, hnodup, fun p v => (hmem p v).trans (hD p v), hl⟩

theorem check (c : Prop) [Decidable c] (p : α) (v : β) :
    EntryForEach (fun p' v' => c ∧ p' = p ∧ v' = v) (if c then [v] else []) := by
  by_cases hc : c
  · exact ⟨[(p, v)], by simp, by simp [hc], by simp [hc]⟩
  · exact ⟨[], by simp, by simp [hc], by simp [hc]⟩

theorem append (h : EntryForEach D l) (h' : EntryForEach D' l')
    (hapart : ∀ p v v', D p v → ¬ D' p v') :
    EntryForEach (fun p v => D p v ∨ D' p v) (l ++ l') := by
  obtain ⟨entries, hnodup, hmem, rfl⟩ := h
  obtain ⟨entries', hnodup', hmem', rfl⟩ := h'
  refine ⟨entries ++ entries', ?_, ?_, List.map_append⟩
  · rw [List.map_append, List.nodup_append]
    refine ⟨hnodup, hnodup', ?_⟩
    rintro p hp _ hp' rfl
    obtain ⟨⟨_, v⟩, hv, rfl⟩ := List.mem_map.1 hp
    obtain ⟨⟨_, v'⟩, hv', rfl⟩ := List.mem_map.1 hp'
    exact hapart _ v v' ((hmem _ _).1 hv) ((hmem' _ _).1 hv')
  · simp [hmem, hmem']

theorem under (h : EntryForEach D l) (place : α → γ)
    (hplace : ∀ p p', place p = place p' → p = p') :
    EntryForEach (fun q v => ∃ p, q = place p ∧ D p v) l := by
  obtain ⟨entries, hnodup, hmem, rfl⟩ := h
  refine ⟨entries.map fun entry => (place entry.1, entry.2), ?_, ?_, ?_⟩
  · have hnodup' : ((entries.map Prod.fst).map place).Nodup :=
      List.Pairwise.map place (fun p p' hne heq => hne (hplace p p' heq)) hnodup
    rw [List.map_map] at hnodup' ⊢
    exact hnodup'
  · intro q v
    simp only [List.mem_map, Prod.mk.injEq, Prod.exists, ← hmem]
    constructor
    · rintro ⟨p, v, hp, rfl, rfl⟩
      exact ⟨p, rfl, hp⟩
    · rintro ⟨p, rfl, hp⟩
      exact ⟨p, v, hp, rfl, rfl⟩
  · rw [List.map_map]
    rfl

/-- Entries for the items of a list, in their order; the place says which item it is. -/
theorem flatMap {D : ι → α → β → Prop} {f : ι → List β} (items : List ι)
    (h : ∀ x, EntryForEach (D x) (f x)) :
    EntryForEach (fun (q : Nat × α) v => ∃ x, items[q.1]? = some x ∧ D x q.2 v)
      (items.flatMap f) := by
  induction items with
  | nil => exact ⟨[], by simp, by simp, rfl⟩
  | cons x items ih =>
    have hfirst := (h x).under (fun p => (0, p)) (by simp)
    have hrest := ih.under (fun q : Nat × α => (q.1 + 1, q.2)) (by simp [Prod.ext_iff])
    refine (hfirst.append hrest ?_).congr ?_
    · rintro p v v' ⟨q, rfl, -⟩ ⟨q', hq', -⟩
      cases congrArg Prod.fst hq'
    · rintro ⟨i, p⟩ v
      cases i with
      | zero => simp
      | succ i => simp [Prod.ext_iff, and_assoc]

theorem filterMap (f : ι → Option β) (items : List ι) :
    EntryForEach (fun (i : Nat) v => ∃ x, items[i]? = some x ∧ f x = some v)
      (items.filterMap f) := by
  have hone : ∀ x, EntryForEach (fun (_ : Unit) v => f x = some v) (f x).toList := by
    intro x
    cases f x with
    | none => exact ⟨[], by simp, by simp, rfl⟩
    | some v => exact ⟨[((), v)], by simp, by simp [eq_comm], rfl⟩
  have hall := (flatMap items hone).under Prod.fst (by simp [Prod.ext_iff])
  rw [List.filterMap_eq_flatMap_toList]
  refine hall.congr fun i v => ?_
  simp

end EntryForEach

end Entries
namespace Text

theorem trimRight_eq_nil_iff {cs : List Char} :
    trimRight cs = [] ↔ ∀ ch ∈ cs, isBlank ch = true := by
  simp [trimRight, List.dropWhile_eq_nil_iff]

/-- A text is blank exactly when nothing is left of it without its blanks. -/
theorem isEmpty_trim_iff {text : String} :
    (trim text).isEmpty = true ↔ ∀ ch ∈ text.toList, isBlank ch = true := by
  have hleft : ∀ cs : List Char,
      (∀ ch ∈ trimLeft cs, isBlank ch = true) ↔ ∀ ch ∈ cs, isBlank ch = true := by
    intro cs
    induction cs with
    | nil => simp [trimLeft]
    | cons ch cs ih =>
      by_cases hch : isBlank ch = true
      · rw [trimLeft, List.dropWhile_cons_of_pos hch, ← trimLeft, ih]
        simp [hch]
      · rw [trimLeft, List.dropWhile_cons_of_neg hch]
  rw [← hleft, ← trimRight_eq_nil_iff, trim, trimChars]
  simp

end Text

inductive Slot where
  | next | onError
deriving DecidableEq

namespace Slot

def word : Slot → String
  | .next => "next"
  | .onError => "onError"

def of (s : Step) : Slot → Option Transition
  | .next => s.next
  | .onError => s.onError

end Slot

namespace Transition

def branchList : Transition → List Branch
  | .fixed _ => []
  | .branches bs => bs

/-- A transition that leads to steps of a workflow or to its end, and that can be decided. -/
structure Valid (w : Workflow) (t : Transition) : Prop where
  target : ∀ target ∈ t.targets, target = endTarget ∨ ∃ s ∈ w.steps, s.id = target
  branches : t ≠ .branches []
  condition : ∀ b ∈ t.branchList, ∀ text, b.condition = some text →
    ∃ condition, Condition.parse text = .ok condition

inductive Place where
  | target (i : Nat) | branches | condition (i : Nat)

/-- What is wrong with a transition, and how it is told. -/
inductive Defect (w : Workflow) (stepId : String) (slot : Slot) (t : Transition) :
    Place → Violation → Prop
  | target {i : Nat} {target : String} (h : t.targets[i]? = some target) (hend : target ≠ endTarget)
      (hnone : ∀ s ∈ w.steps, s.id ≠ target) :
      Defect w stepId slot t (.target i) (.unknownTarget stepId slot.word target)
  | branches (h : t = .branches []) :
      Defect w stepId slot t .branches (.noBranches stepId slot.word)
  | condition {i : Nat} {b : Branch} {text : String} {cause : ConditionError}
      (h : t.branchList[i]? = some b) (htext : b.condition = some text)
      (hparse : Condition.parse text = .error cause) :
      Defect w stepId slot t (.condition i) (.badCondition stepId slot.word cause)

end Transition

namespace Step

structure Valid (patterns : PatternReader) (w : Workflow) (s : Step) : Prop where
  kind : s.kind ≠ none
  choices : s.kind = some .choice → s.choices ≠ []
  action : s.kind = some .service → s.action ≠ none
  pause : s.pause = true → s.kind = some .message
  onError : s.onError ≠ none → s.action ≠ none
  pattern : ∀ rule p, s.validation = some rule → rule.pattern = some p → patterns.read? p ≠ none
  transition : ∀ slot t, Slot.of s slot = some t → t.Valid w

inductive Place where
  | kind | choices | action | pause | onError | pattern
  | transition (slot : Slot) (place : Transition.Place)

/-- What is wrong with a step, and how it is told. -/
inductive Defect (patterns : PatternReader) (w : Workflow) (s : Step) : Place → Violation → Prop
  | kind (h : s.kind = none) : Defect patterns w s .kind (.noKind s.id)
  | choices (h : s.kind = some .choice) (hnone : s.choices = []) :
      Defect patterns w s .choices (.noChoices s.id)
  | action (h : s.kind = some .service) (hnone : s.action = none) :
      Defect patterns w s .action (.noAction s.id)
  | pause (h : s.pause = true) (hkind : s.kind ≠ some .message) :
      Defect patterns w s .pause (.pauseElsewhere s.id)
  | onError (h : s.onError ≠ none) (hnone : s.action = none) :
      Defect patterns w s .onError (.errorBranchWithoutAction s.id)
  | pattern {rule : Rule} {p : String} (h : s.validation = some rule) (hp : rule.pattern = some p)
      (hnone : patterns.read? p = none) : Defect patterns w s .pattern (.invalidPattern s.id)
  | transition {slot : Slot} {t : Transition} {place : Transition.Place} {v : Violation}
      (h : Slot.of s slot = some t) (hdefect : t.Defect w s.id slot place v) :
      Defect patterns w s (.transition slot place) v

end Step

namespace Workflow

/-- A workflow that can be run: it has a name, steps with names of their own, and a first one. -/
structure Valid (patterns : PatternReader) (w : Workflow) : Prop where
  id : ∃ ch ∈ w.id.toList, Text.isBlank ch = false
  steps : w.steps ≠ []
  distinct : (w.steps.map (·.id)).Nodup
  reserved : ∀ s ∈ w.steps, s.id ≠ endTarget
  start : ∃ s ∈ w.steps, s.id = w.startStepId
  step : ∀ s ∈ w.steps, s.Valid patterns w

inductive Place where
  | id | steps | reserved (i : Nat) | repeated (i : Nat) | start
  | step (i : Nat) (place : Step.Place)

/-- What is wrong with a workflow, and how it is told. -/
inductive Defect (patterns : PatternReader) (w : Workflow) : Place → Violation → Prop
  | id (h : ∀ ch ∈ w.id.toList, Text.isBlank ch = true) : Defect patterns w .id .emptyId
  | steps (h : w.steps = []) : Defect patterns w .steps .noSteps
  | reserved {i : Nat} {s : Step} (hs : w.steps[i]? = some s) (h : s.id = endTarget) :
      Defect patterns w (.reserved i) .reservedId
  | repeated {i : Nat} {s : Step} (hs : w.steps[i]? = some s)
      (h : ∃ s' ∈ w.steps.take i, s'.id = s.id) :
      Defect patterns w (.repeated i) (.duplicateStep s.id)
  | start (h : ∀ s ∈ w.steps, s.id ≠ w.startStepId) :
      Defect patterns w .start (.missingStart w.startStepId)
  | step {i : Nat} {s : Step} {place : Step.Place} {v : Violation} (hs : w.steps[i]? = some s)
      (hdefect : s.Defect patterns w place v) : Defect patterns w (.step i place) v

theorem step?_eq_none_iff {w : Workflow} {id : String} :
    w.step? id = none ↔ ∀ s ∈ w.steps, s.id ≠ id := by
  simp [step?]

end Workflow

namespace Transition

variable {w : Workflow} {stepId : String} {slot : Slot} {t : Transition}

theorem valid_iff : t.Valid w ↔ ∀ p v, ¬ t.Defect w stepId slot p v := by
  constructor
  · rintro h p v (⟨htarget, hend, hnone⟩ | hempty | ⟨hb, htext, hparse⟩)
    · obtain ⟨s, hs, hid⟩ := (h.target _ (List.mem_of_getElem? htarget)).resolve_left hend
      exact hnone s hs hid
    · exact h.branches hempty
    · obtain ⟨condition, hcondition⟩ := h.condition _ (List.mem_of_getElem? hb) _ htext
      cases hparse.symm.trans hcondition
  · intro h
    refine ⟨?_, fun hempty => h _ _ (.branches hempty), ?_⟩
    · intro target htarget
      obtain ⟨i, hi⟩ := List.mem_iff_getElem?.1 htarget
      by_contra hwrong
      simp only [not_or, not_exists, not_and] at hwrong
      exact h _ _ (.target hi hwrong.1 hwrong.2)
    · intro b hb text htext
      obtain ⟨i, hi⟩ := List.mem_iff_getElem?.1 hb
      cases hparse : Condition.parse text with
      | ok condition => exact ⟨condition, rfl⟩
      | error cause => exact absurd (.condition hi htext hparse) (h _ _)

def targetEntry (w : Workflow) (stepId slot target : String) : Option Violation :=
  if target ≠ endTarget ∧ (w.step? target).isNone then some (.unknownTarget stepId slot target)
  else none

def branchEntry (stepId slot : String) (b : Branch) : Option Violation :=
  b.condition.bind fun text =>
    match Condition.parse text with
    | .ok _ => none
    | .error e => some (.badCondition stepId slot e)

theorem targetEntry_eq_some_iff {slot target : String} {v : Violation} :
    targetEntry w stepId slot target = some v ↔
      target ≠ endTarget ∧ (∀ s ∈ w.steps, s.id ≠ target) ∧
        .unknownTarget stepId slot target = v := by
  simp [targetEntry, Workflow.step?_eq_none_iff, and_assoc]

theorem branchEntry_eq_some_iff {slot : String} {b : Branch} {v : Violation} :
    branchEntry stepId slot b = some v ↔ ∃ text cause, b.condition = some text ∧
      Condition.parse text = .error cause ∧ .badCondition stepId slot cause = v := by
  simp only [branchEntry, Option.bind_eq_some_iff]
  constructor
  · rintro ⟨text, htext, h⟩
    split at h
    · cases h
    · rename_i cause hcause
      exact ⟨text, cause, htext, hcause, by simpa using h⟩
  · rintro ⟨text, cause, htext, hcause, rfl⟩
    exact ⟨text, htext, by rw [hcause]⟩

theorem violations_eq (w : Workflow) (stepId slot : String) (t : Transition) :
    t.violations w stepId slot = t.targets.filterMap (targetEntry w stepId slot) ++
      (if t = .branches [] then [.noBranches stepId slot] else []) ++
      t.branchList.filterMap (branchEntry stepId slot) := by
  have htargets : (t.targets.filter fun target =>
      target ≠ endTarget ∧ (w.step? target).isNone).map (Violation.unknownTarget stepId slot) =
      t.targets.filterMap (targetEntry w stepId slot) := by
    rw [← List.filterMap_eq_map, List.filterMap_filter]
    refine List.filterMap_congr fun target _ => ?_
    simp [targetEntry]
  cases t with
  | fixed target => simpa [violations, branchList] using htargets
  | branches bs =>
    simp only [violations, htargets, branchList, List.isEmpty_iff, branches.injEq]
    rfl

theorem entryForEach (w : Workflow) (stepId : String) (slot : Slot) (t : Transition) :
    EntryForEach (t.Defect w stepId slot) (t.violations w stepId slot.word) := by
  rw [violations_eq]
  have htargets := (EntryForEach.filterMap (targetEntry w stepId slot.word) t.targets).under
    Place.target (by simp)
  have hbranches := EntryForEach.check (t = .branches []) Place.branches
    (Violation.noBranches stepId slot.word)
  have hconditions := (EntryForEach.filterMap (branchEntry stepId slot.word) t.branchList).under
    Place.condition (by simp)
  refine ((htargets.append hbranches ?_).append hconditions ?_).congr fun p v => ?_
  · rintro p v v' ⟨i, rfl, -⟩ ⟨-, h, -⟩
    cases h
  · rintro p v v' (⟨i, rfl, -⟩ | ⟨-, rfl, -⟩) ⟨j, h, -⟩
    · cases h
    · cases h
  · constructor
    · rintro ((⟨i, rfl, target, htarget, h⟩ | ⟨h, rfl, rfl⟩) | ⟨i, rfl, b, hb, h⟩)
      · obtain ⟨hend, hnone, rfl⟩ := targetEntry_eq_some_iff.1 h
        exact .target htarget hend hnone
      · exact .branches h
      · obtain ⟨text, cause, htext, hparse, rfl⟩ := branchEntry_eq_some_iff.1 h
        exact .condition hb htext hparse
    · rintro (⟨htarget, hend, hnone⟩ | h | ⟨hb, htext, hparse⟩)
      · exact .inl (.inl ⟨_, rfl, _, htarget, targetEntry_eq_some_iff.2 ⟨hend, hnone, rfl⟩⟩)
      · exact .inl (.inr ⟨h, rfl, rfl⟩)
      · exact .inr ⟨_, rfl, _, hb, branchEntry_eq_some_iff.2 ⟨_, _, htext, hparse, rfl⟩⟩

end Transition

namespace Step

variable {patterns : PatternReader} {w : Workflow} {s : Step}

theorem valid_iff : s.Valid patterns w ↔ ∀ p v, ¬ s.Defect patterns w p v := by
  constructor
  · intro h p v hdefect
    cases hdefect with
    | kind hnone => exact h.kind hnone
    | choices hkind hnone => exact h.choices hkind hnone
    | action hkind hnone => exact h.action hkind hnone
    | pause hpause hkind => exact hkind (h.pause hpause)
    | onError hbranch hnone => exact h.onError hbranch hnone
    | pattern hrule hp hnone => exact h.pattern _ _ hrule hp hnone
    | transition hslot hdefect => exact Transition.valid_iff.1 (h.transition _ _ hslot) _ _ hdefect
  · intro h
    refine ⟨?_, ?_, ?_, ?_, ?_, ?_, ?_⟩
    · exact fun hnone => h _ _ (.kind hnone)
    · exact fun hkind hnone => h _ _ (.choices hkind hnone)
    · exact fun hkind hnone => h _ _ (.action hkind hnone)
    · exact fun hpause => by_contra fun hkind => h _ _ (.pause hpause hkind)
    · exact fun hbranch hnone => h _ _ (.onError hbranch hnone)
    · exact fun rule p hrule hp hnone => h _ _ (.pattern hrule hp hnone)
    · intro slot t hslot
      exact Transition.valid_iff.2 fun p v hdefect => h _ _ (.transition hslot hdefect)

theorem entryForEach_kind (s : Step) : EntryForEach
    (fun p v => s.kind = none ∧ p = Place.kind ∧ v = .noKind s.id ∨
      (s.kind = some .choice ∧ s.choices = []) ∧ p = .choices ∧ v = .noChoices s.id ∨
      (s.kind = some .service ∧ s.action = none) ∧ p = .action ∧ v = .noAction s.id)
    s.kindViolations := by
  have hkind := EntryForEach.check (s.kind = none) Place.kind (Violation.noKind s.id)
  have hchoices := EntryForEach.check (s.kind = some .choice ∧ s.choices = []) Place.choices
    (Violation.noChoices s.id)
  have haction := EntryForEach.check (s.kind = some .service ∧ s.action = none) Place.action
    (Violation.noAction s.id)
  have hall := hkind.append (hchoices.append haction (by
    rintro p v v' ⟨-, rfl, -⟩ ⟨-, h, -⟩
    cases h)) (by
    rintro p v v' ⟨-, rfl, -⟩ (⟨-, h, -⟩ | ⟨-, h, -⟩)
    · cases h
    · cases h)
  have hlist : s.kindViolations = (if s.kind = none then [.noKind s.id] else []) ++
      ((if s.kind = some .choice ∧ s.choices = [] then [.noChoices s.id] else []) ++
        if s.kind = some .service ∧ s.action = none then [.noAction s.id] else []) := by
    rw [kindViolations]
    cases s.kind with
    | none => simp
    | some kind =>
      cases kind with
      | input => simp
      | choice => simp [List.isEmpty_iff]
      | message => simp
      | service => simp [Option.isNone_iff_eq_none]
  rw [hlist]
  exact hall

theorem entryForEach_transition (w : Workflow) (s : Step) (slot : Slot) : EntryForEach
    (fun p v => ∃ place, p = Place.transition slot place ∧
      ∃ t, Slot.of s slot = some t ∧ t.Defect w s.id slot place v)
    (match Slot.of s slot with
      | some t => t.violations w s.id slot.word
      | none => []) := by
  cases hslot : Slot.of s slot with
  | none => exact ⟨[], by simp, by simp, rfl⟩
  | some t =>
    have h := (Transition.entryForEach w s.id slot t).under (Place.transition slot)
      (by simp)
    simpa using h

theorem hasBadPattern_iff : s.hasBadPattern patterns = true ↔
    ∃ rule p, s.validation = some rule ∧ rule.pattern = some p ∧ patterns.read? p = none := by
  cases hrule : s.validation with
  | none => simp [hasBadPattern, hrule]
  | some rule =>
    cases hp : rule.pattern with
    | none => simp [hasBadPattern, hrule, hp]
    | some p => simp [hasBadPattern, hrule, hp]

theorem entryForEach (patterns : PatternReader) (w : Workflow) (s : Step) :
    EntryForEach (s.Defect patterns w) (s.violations patterns w) := by
  have hpause := EntryForEach.check (s.pause = true ∧ s.kind ≠ some .message) Place.pause
    (Violation.pauseElsewhere s.id)
  have honError := EntryForEach.check (s.onError.isSome = true ∧ s.action.isNone = true)
    Place.onError
    (Violation.errorBranchWithoutAction s.id)
  have hpattern := EntryForEach.check (s.hasBadPattern patterns = true) Place.pattern
    (Violation.invalidPattern s.id)
  have hnext := entryForEach_transition w s .next
  have hfailed := entryForEach_transition w s .onError
  refine ((((((entryForEach_kind s).append hpause ?_).append honError ?_).append hpattern ?_).append
    hnext ?_).append hfailed ?_).congr fun p v => ?_
  · grind
  · grind
  · grind
  · grind
  · grind
  · constructor
    · rintro (((((hkind | h) | h) | h) | h) | h)
      · rcases hkind with ⟨h, rfl, rfl⟩ | ⟨⟨h, hnone⟩, rfl, rfl⟩ | ⟨⟨h, hnone⟩, rfl, rfl⟩
        · exact .kind h
        · exact .choices h hnone
        · exact .action h hnone
      · obtain ⟨⟨h, hkind⟩, rfl, rfl⟩ := h
        exact .pause h hkind
      · obtain ⟨⟨h, hnone⟩, rfl, rfl⟩ := h
        exact .onError (Option.isSome_iff_ne_none.1 h) (Option.isNone_iff_eq_none.1 hnone)
      · obtain ⟨h, rfl, rfl⟩ := h
        obtain ⟨rule, p, hrule, hp, hnone⟩ := hasBadPattern_iff.1 h
        exact .pattern hrule hp hnone
      · obtain ⟨place, rfl, t, hslot, hdefect⟩ := h
        exact .transition hslot hdefect
      · obtain ⟨place, rfl, t, hslot, hdefect⟩ := h
        exact .transition hslot hdefect
    · intro h
      cases h with
      | kind h => simp [h]
      | choices h hnone => simp [h, hnone]
      | action h hnone => simp [h, hnone]
      | pause h hkind => simp [h, hkind]
      | onError h hnone => simp [Option.isSome_iff_ne_none, h, hnone]
      | pattern h hp hnone => simp [hasBadPattern_iff.2 ⟨_, _, h, hp, hnone⟩]
      | @transition slot t place v hslot hdefect =>
        cases slot with
        | next => exact .inl (.inr ⟨place, rfl, t, hslot, hdefect⟩)
        | onError => exact .inr ⟨place, rfl, t, hslot, hdefect⟩

end Step

namespace Workflow

variable {w : Workflow}

/-- Ids are distinct exactly when none of them occurs before. -/
theorem nodup_ids_iff {steps : List Step} : (steps.map (·.id)).Nodup ↔
    ∀ (i : Nat) s, steps[i]? = some s → ∀ s' ∈ steps.take i, s'.id ≠ s.id := by
  rw [List.Nodup, List.pairwise_map, List.pairwise_iff_getElem]
  constructor
  · intro h i s hs s' hs'
    obtain ⟨hi, rfl⟩ := List.getElem?_eq_some_iff.1 hs
    obtain ⟨j, hj, rfl⟩ := List.mem_take_iff_getElem.1 hs'
    exact h j i (by omega) hi (by omega)
  · intro h j i hj hi hlt
    exact h i _ (List.getElem?_eq_getElem hi) _ (List.mem_take_iff_getElem.2 ⟨j, by omega, rfl⟩)

def Place.later : Place → Place
  | .reserved i => .reserved (i + 1)
  | .repeated i => .repeated (i + 1)
  | .step i place => .step (i + 1) place
  | .id => .id
  | .steps => .steps
  | .start => .start

theorem Place.later_injective (p p' : Place) (h : p.later = p'.later) : p = p' := by
  cases p <;> cases p' <;> simp_all [Place.later]

/-- What is wrong with the ids of steps, where `seen` are those that occurred before. -/
inductive IdDefect (seen : List String) (steps : List Step) : Place → Violation → Prop
  | reserved {i : Nat} {s : Step} (hs : steps[i]? = some s) (h : s.id = endTarget) :
      IdDefect seen steps (.reserved i) .reservedId
  | repeated {i : Nat} {s : Step} (hs : steps[i]? = some s)
      (h : s.id ∈ seen ∨ ∃ s' ∈ steps.take i, s'.id = s.id) :
      IdDefect seen steps (.repeated i) (.duplicateStep s.id)

/-- The ids of the steps after the first one are checked with its id among those seen. -/
theorem idDefect_cons_iff {seen : List String} {s : Step} {steps : List Step} {p : Place}
    {v : Violation} : IdDefect seen (s :: steps) p v ↔
      ((s.id = endTarget ∧ p = .reserved 0 ∧ v = .reservedId) ∨
        (s.id ∈ seen ∧ p = .repeated 0 ∧ v = .duplicateStep s.id)) ∨
      ∃ p', p = p'.later ∧ IdDefect (s.id :: seen) steps p' v := by
  constructor
  · rintro (@⟨i, s', hs, h⟩ | @⟨i, s', hs, h⟩)
    · cases i with
      | zero =>
        cases hs
        exact .inl (.inl ⟨h, rfl, rfl⟩)
      | succ i => exact .inr ⟨.reserved i, rfl, .reserved hs h⟩
    · cases i with
      | zero =>
        cases hs
        exact .inl (.inr ⟨by simpa using h, rfl, rfl⟩)
      | succ i =>
        refine .inr ⟨.repeated i, rfl, .repeated hs ?_⟩
        simpa [or_assoc, or_left_comm, eq_comm] using h
  · rintro ((⟨h, rfl, rfl⟩ | ⟨h, rfl, rfl⟩) | ⟨p, rfl, @⟨i, s', hs, h⟩ | @⟨i, s', hs, h⟩⟩)
    · exact .reserved (i := 0) rfl h
    · exact .repeated (i := 0) rfl (.inl h)
    · exact .reserved (i := i + 1) hs h
    · refine .repeated (i := i + 1) hs ?_
      simpa [or_assoc, or_left_comm, eq_comm] using h

/-- The entries for the ids of steps, where `seen` are those that occurred before. -/
theorem entryForEach_ids (seen : List String) (steps : List Step) :
    EntryForEach (IdDefect seen steps) (idViolations seen steps) := by
  induction steps generalizing seen with
  | nil =>
    refine ⟨[], by simp, fun p v => ?_, rfl⟩
    constructor
    · intro h
      cases h
    · rintro (hs | hs)
      · simp at hs
      · simp at hs
  | cons s steps ih =>
    have hreserved := EntryForEach.check (s.id = endTarget) (Place.reserved 0) Violation.reservedId
    have hrepeated := EntryForEach.check (s.id ∈ seen) (Place.repeated 0)
      (Violation.duplicateStep s.id)
    have hrest := (ih (s.id :: seen)).under Place.later Place.later_injective
    refine ((hreserved.append hrepeated ?_).append hrest ?_).congr fun p v => ?_
    · grind
    · rintro p v v' h ⟨p', hp', hdefect⟩
      cases hdefect with
      | reserved => simp [hp', Place.later] at h
      | repeated => simp [hp', Place.later] at h
    · exact idDefect_cons_iff.symm

theorem entryForEach (patterns : PatternReader) (w : Workflow) :
    EntryForEach (w.Defect patterns) (w.violations patterns) := by
  have hid := EntryForEach.check ((Text.trim w.id).isEmpty = true) Place.id Violation.emptyId
  have hsteps := EntryForEach.check (w.steps.isEmpty = true) Place.steps Violation.noSteps
  have hids := entryForEach_ids [] w.steps
  have hstart := EntryForEach.check ((w.step? w.startStepId).isNone = true) Place.start
    (Violation.missingStart w.startStepId)
  have heach := (EntryForEach.flatMap w.steps (Step.entryForEach patterns w)).under
    (fun q => Place.step q.1 q.2) (by simp [Prod.ext_iff])
  refine ((((hid.append hsteps ?_).append hids ?_).append hstart ?_).append heach ?_).congr
    fun p v => ?_
  · grind
  · rintro p v v' h hdefect
    cases hdefect with
    | reserved => simp at h
    | repeated => simp at h
  · rintro p v v' h ⟨-, rfl, -⟩
    rcases h with (⟨-, h, -⟩ | ⟨-, h, -⟩) | h
    · cases h
    · cases h
    · cases h
  · rintro p v v' h ⟨q, rfl, -⟩
    rcases h with ((⟨-, h, -⟩ | ⟨-, h, -⟩) | h) | ⟨-, h, -⟩
    · cases h
    · cases h
    · cases h
    · cases h
  · constructor
    · rintro ((((⟨h, rfl, rfl⟩ | ⟨h, rfl, rfl⟩) | h) | ⟨h, rfl, rfl⟩) | ⟨q, rfl, s, hs, hdefect⟩)
      · exact .id (Text.isEmpty_trim_iff.1 h)
      · exact .steps (List.isEmpty_iff.1 h)
      · cases h with
        | reserved hs h => exact .reserved hs h
        | repeated hs h => exact .repeated hs (h.resolve_left List.not_mem_nil)
      · exact .start (step?_eq_none_iff.1 (Option.isNone_iff_eq_none.1 h))
      · exact .step hs hdefect
    · intro h
      cases h with
      | id h => exact .inl (.inl (.inl (.inl ⟨Text.isEmpty_trim_iff.2 h, rfl, rfl⟩)))
      | steps h => exact .inl (.inl (.inl (.inr ⟨List.isEmpty_iff.2 h, rfl, rfl⟩)))
      | reserved hs h => exact .inl (.inl (.inr (.reserved hs h)))
      | repeated hs h => exact .inl (.inl (.inr (.repeated hs (.inr h))))
      | start h =>
        have hnone := Option.isNone_iff_eq_none.2 (step?_eq_none_iff.2 h)
        exact .inl (.inr ⟨hnone, rfl, rfl⟩)
      | @step i s place v hs hdefect => exact .inr ⟨(i, place), rfl, s, hs, hdefect⟩

theorem valid_iff : w.Valid patterns ↔ ∀ p v, ¬ w.Defect patterns p v := by
  constructor
  · intro h p v hdefect
    cases hdefect with
    | id hblank =>
      obtain ⟨ch, hch, hnot⟩ := h.id
      simp [hblank ch hch] at hnot
    | steps hnone => exact h.steps hnone
    | reserved hs hend => exact h.reserved _ (List.mem_of_getElem? hs) hend
    | repeated hs hagain =>
      obtain ⟨s', hs', hid⟩ := hagain
      exact nodup_ids_iff.1 h.distinct _ _ hs s' hs' hid
    | start hnone =>
      obtain ⟨s, hs, hid⟩ := h.start
      exact hnone s hs hid
    | step hs hdefect =>
      exact Step.valid_iff.1 (h.step _ (List.mem_of_getElem? hs)) _ _ hdefect
  · intro h
    refine ⟨?_, ?_, ?_, ?_, ?_, ?_⟩
    · by_contra hblank
      exact h _ _ (.id (by simpa using hblank))
    · exact fun hnone => h _ _ (.steps hnone)
    · exact nodup_ids_iff.2 fun i s hs s' hs' hid => h _ _ (.repeated hs ⟨s', hs', hid⟩)
    · intro s hs hend
      obtain ⟨i, hi⟩ := List.mem_iff_getElem?.1 hs
      exact h _ _ (.reserved hi hend)
    · by_contra hnone
      exact h _ _ (.start (by simpa using hnone))
    · intro s hs
      obtain ⟨i, hi⟩ := List.mem_iff_getElem?.1 hs
      exact Step.valid_iff.2 fun p v hdefect => h _ _ (.step hi hdefect)

end Workflow

namespace Registry

/-- Where a defect is that keeps a workflow out of a registry: in the workflow, or its id is not
new. -/
inductive Place where
  | workflow (place : Workflow.Place) | id

/-- What keeps a workflow out of a registry, and how it is told. -/
inductive Defect (r : Registry) (w : Workflow) : Place → Violation → Prop
  | workflow {place : Workflow.Place} {v : Violation} (h : w.Defect r.patterns place v) :
      Defect r w (.workflow place) v
  | taken (h : (r.get? w.id).isSome = true) : Defect r w .id (.alreadyRegistered w.id)

variable {r r' r'' : Registry} {w : Workflow}

theorem entryForEach (r : Registry) (w : Workflow) :
    EntryForEach (r.Defect w) (r.violations w) := by
  have hworkflow := (Workflow.entryForEach r.patterns w).under Place.workflow (by simp)
  have htaken := EntryForEach.check ((r.get? w.id).isSome = true) Place.id
    (Violation.alreadyRegistered w.id)
  refine (hworkflow.append htaken ?_).congr fun p v => ?_
  · rintro p v v' ⟨q, rfl, -⟩ ⟨-, h, -⟩
    cases h
  · constructor
    · rintro (⟨q, rfl, h⟩ | ⟨h, rfl, rfl⟩)
      · exact .workflow h
      · exact .taken h
    · rintro (h | h)
      · exact .inl ⟨_, rfl, h⟩
      · exact .inr ⟨h, rfl, rfl⟩

/-- Nothing keeps a workflow out exactly when it is valid and its id is new. -/
theorem violations_eq_nil_iff : r.violations w = [] ↔ w.Valid r.patterns ∧ r.get? w.id = none := by
  rw [(entryForEach r w).eq_nil_iff, Workflow.valid_iff]
  constructor
  · intro h
    refine ⟨fun p v hdefect => h _ _ (.workflow hdefect), ?_⟩
    by_contra htaken
    exact h _ _ (.taken (Option.isSome_iff_ne_none.2 htaken))
  · rintro ⟨hvalid, hnew⟩ p v (hdefect | htaken)
    · exact hvalid _ _ hdefect
    · simp [hnew] at htaken

/-- A registration succeeds exactly for valid workflows with new ids, which are put in front. -/
theorem register_eq_ok_iff : r.register w = .ok r' ↔
    (w.Valid r.patterns ∧ r.get? w.id = none) ∧ r' = { r with workflows := w :: r.workflows } := by
  rw [← violations_eq_nil_iff, register, ← List.isEmpty_iff]
  by_cases h : (r.violations w).isEmpty = true
  · simp [h, eq_comm]
  · simp [h]

theorem get?_register (h : r.register w = .ok r') (id : String) :
    r'.get? id = if id = w.id then some w else r.get? id := by
  obtain ⟨-, rfl⟩ := register_eq_ok_iff.1 h
  by_cases hid : id = w.id
  · simp [get?, hid]
  · have hne : w.id ≠ id := fun h => hid h.symm
    simp [get?, hid, hne]

inductive Grows : Registry → Registry → Prop
  | refl (r : Registry) : Grows r r
  | register {r r' r'' : Registry} {w : Workflow} (h : Grows r r') (hw : r'.register w = .ok r'') :
      Grows r r''

theorem Grows.trans (h : Grows r r') (h' : Grows r' r'') : Grows r r'' := by
  induction h' with
  | refl => exact h
  | register _ hw ih => exact ih.register hw

theorem Grows.built (h : Grows r r') (hr : r.Built) : r'.Built := by
  induction h with
  | refl => exact hr
  | register _ hw ih => exact ih.register hw

theorem Grows.get? {id : String} (h : Grows r r') (hid : r.get? id = some w) :
    r'.get? id = some w := by
  induction h with
  | refl => exact hid
  | @register r' r'' w' h hw ih =>
    rw [get?_register hw, if_neg]
    · exact ih
    · rintro rfl
      have hnew := (register_eq_ok_iff.1 hw).1.2
      rw [hnew] at ih
      cases ih

theorem Grows.patterns (h : Grows r r') : r'.patterns = r.patterns := by
  induction h with
  | refl => rfl
  | register _ hw ih =>
    obtain ⟨-, rfl⟩ := register_eq_ok_iff.1 hw
    exact ih

theorem Built.valid (h : r.Built) : ∀ w ∈ r.workflows, w.Valid r.patterns := by
  induction h with
  | empty => simp
  | register _ hw ih =>
    obtain ⟨⟨hvalid, -⟩, rfl⟩ := register_eq_ok_iff.1 hw
    exact List.forall_mem_cons.2 ⟨hvalid, ih⟩

theorem registerFiles_grows (r : Registry) (count : Nat) (files : List (String × Option String)) :
    Grows r (r.registerFiles count files).1 := by
  induction files generalizing r count with
  | nil => exact .refl r
  | cons file files ih =>
    obtain ⟨name, text⟩ := file
    cases text with
    | none => exact .refl r
    | some text =>
      simp only [registerFiles]
      cases h : r.registerText text with
      | error err => exact .refl r
      | ok r' =>
        refine Grows.trans ?_ (ih r' (count + 1))
        cases htext : Workflow.ofText text with
        | error err => simp [registerText, htext, Bind.bind, Except.bind] at h
        | ok w =>
          simp only [registerText, htext, Bind.bind, Except.bind] at h
          exact .register (.refl r) h

/-- What is asked of a registry. -/
inductive Operation where
  | register (w : Workflow)
  | loadDirectory (fs : Files) (path : List String)

/-- The registry that an operation leaves. A registration that fails leaves the one there was. -/
def leave (r : Registry) : Operation → Registry
  | .register w => (r.register w).toOption.getD r
  | .loadDirectory fs path => (r.loadDirectory fs path).1

/-- The registry that operations leave one after the other, the first on an empty one. -/
def after (patterns : PatternReader) (operations : List Operation) : Registry :=
  operations.foldl leave { patterns }

theorem leave_grows (r : Registry) (operation : Operation) : Grows r (r.leave operation) := by
  cases operation with
  | register w =>
    simp only [leave]
    cases h : r.register w with
    | error err => exact .refl r
    | ok r' => exact .register (.refl r) h
  | loadDirectory fs path =>
    simp only [leave, loadDirectory]
    split
    · exact registerFiles_grows r 0 _
    · exact .refl r

theorem foldl_leave_grows (r : Registry) (operations : List Operation) :
    Grows r (operations.foldl leave r) := by
  induction operations generalizing r with
  | nil => exact .refl r
  | cons operation operations ih => exact (leave_grows r operation).trans (ih _)

/-- A registry takes exactly the valid workflows with new ids. It answers for such a workflow from
then on, and for all others as before. Another one is refused with one entry for each of its
defects, and the registry stays as it was. So whatever was asked of a registry before, also in
vain, each workflow it has is valid and has the id it is found under, and it is never replaced or
removed. -/
theorem register_valid (r : Registry) (w : Workflow) (patterns : PatternReader)
    (operations : List Operation) :
    ((∃ r', r.register w = .ok r') ↔ w.Valid r.patterns ∧ r.get? w.id = none) ∧
    (∀ r', r.register w = .ok r' →
      ∀ id, r'.get? id = if id = w.id then some w else r.get? id) ∧
    (¬ (w.Valid r.patterns ∧ r.get? w.id = none) → ∃ vs,
      r.register w = .error (.invalidWorkflow w.id vs) ∧ EntryForEach (r.Defect w) vs ∧
        r.leave (.register w) = r) ∧
    ∀ id w', (after patterns operations).get? id = some w' → w'.id = id ∧ w'.Valid patterns ∧
      ∀ more, (after patterns (operations ++ more)).get? id = some w' := by
  refine ⟨?_, fun r' h => get?_register h, ?_, ?_⟩
  · constructor
    · rintro ⟨r', h⟩
      exact (register_eq_ok_iff.1 h).1
    · intro h
      exact ⟨_, register_eq_ok_iff.2 ⟨h, rfl⟩⟩
  · intro h
    have hne : ¬ (r.violations w).isEmpty = true := by
      rwa [List.isEmpty_iff, violations_eq_nil_iff]
    have hrefused : r.register w = .error (.invalidWorkflow w.id (r.violations w)) := by
      rw [register, if_neg hne]
    exact ⟨_, hrefused, entryForEach r w, by simp [leave, hrefused, Except.toOption]⟩
  · intro id w' h
    have hgrows := foldl_leave_grows { patterns } operations
    have hvalid := (hgrows.built .empty).valid w' (List.mem_of_find?_eq_some h)
    rw [hgrows.patterns] at hvalid
    refine ⟨get?_id h, hvalid, fun more => ?_⟩
    rw [after, List.foldl_append]
    exact (foldl_leave_grows _ more).get? h

def muddle : Workflow where
  id := "muddle"
  startStepId := "nowhere"
  steps := [
    { id := "name", kind := some .input
      next := some (.branches [⟨some "dgi.count === 1", "name"⟩, ⟨none, "missing"⟩]) },
    { id := "poll", kind := some .service, action := some "poll", next := some (.fixed "ghost") },
    { id := "name", kind := some .choice, pause := true, onError := some (.branches []) }]

/-- Every defect of it is told. -/
theorem register_valid_muddle :
    Registry.violations {} muddle = [
      .duplicateStep "name", .missingStart "nowhere", .unknownTarget "name" "next" "missing",
      .badCondition "name" "next" (.literal "dgi.count === 1" "= 1"),
      .unknownTarget "poll" "next" "ghost", .noChoices "name", .pauseElsewhere "name",
      .errorBranchWithoutAction "name", .noBranches "name" "onError"] ∧
    ¬ (muddle.Valid Pattern.reader ∧ Registry.get? {} muddle.id = none) ∧
    ∃ vs, Registry.register {} muddle = .error (.invalidWorkflow "muddle" vs) ∧
      EntryForEach (Registry.Defect {} muddle) vs ∧ Registry.leave {} (.register muddle) = {} := by
  have hviolations : Registry.violations {} muddle = [
      .duplicateStep "name", .missingStart "nowhere", .unknownTarget "name" "next" "missing",
      .badCondition "name" "next" (.literal "dgi.count === 1" "= 1"),
      .unknownTarget "poll" "next" "ghost", .noChoices "name", .pauseElsewhere "name",
      .errorBranchWithoutAction "name", .noBranches "name" "onError"] := by decide +kernel
  have hrefused : ¬ (muddle.Valid Pattern.reader ∧ Registry.get? {} muddle.id = none) := by
    intro hvalid
    simp [violations_eq_nil_iff (r := {}) |>.2 hvalid] at hviolations
  exact ⟨hviolations, hrefused, (register_valid {} muddle Pattern.reader []).2.2.1 hrefused⟩

end Registry

end Dialogue
