import Dialogue.Conversation.Basic
import Mathlib.Tactic.ByContra

namespace Dialogue

namespace Text

theorem mem_insertName {name n : String} {names : List String} :
    n ∈ insertName name names ↔ n = name ∨ n ∈ names := by
  induction names with
  | nil => simp [insertName]
  | cons n₀ names ih =>
    simp only [insertName]
    split
    · rename_i heq
      simp [heq]
    · split
      · simp
      · rw [List.mem_cons, ih, List.mem_cons]
        exact or_left_comm

theorem mem_sortNames {n : String} {names : List String} : n ∈ sortNames names ↔ n ∈ names := by
  induction names with
  | nil => simp [sortNames]
  | cons n₀ names ih =>
    rw [List.mem_cons, ← ih]
    exact mem_insertName

end Text

namespace Branch

theorem isOpen_of_condition_eq_none {b : Branch} (h : b.condition = none) (vars : Record) :
    b.isOpen vars = true := by
  simp [isOpen, h]

end Branch

namespace Transition

/-- Whether a transition may leave no way on: it has branches and all of them have conditions. -/
def LacksCatchAll : Transition → Prop
  | .fixed _ => False
  | .branches bs => ∀ b ∈ bs, b.condition ≠ none

theorem lacksCatchAll_of_resolve {t : Transition} {vars : Record} (h : t.resolve vars = none) :
    t.LacksCatchAll := by
  cases t with
  | fixed target => cases h
  | branches bs =>
    intro b hb hnone
    have hclosed : ∀ b ∈ bs, ¬ b.isOpen vars = true := by simpa [resolve] using h
    exact hclosed b hb (Branch.isOpen_of_condition_eq_none hnone vars)

theorem target_of_resolve {t : Transition} {vars : Record} {d : Destination}
    (h : t.resolve vars = some d) : ∃ target ∈ t.targets, d = .ofTarget target := by
  cases t with
  | fixed target =>
    cases h
    exact ⟨target, List.mem_singleton_self _, rfl⟩
  | branches bs =>
    obtain ⟨b, hb, rfl⟩ := Option.map_eq_some_iff.1 h
    exact ⟨b.target, List.mem_map.2 ⟨b, List.mem_of_find?_eq_some hb, rfl⟩, rfl⟩

end Transition

namespace Step

/-- Whether a step may leave no way on, after a success or after a failure. -/
def LacksCatchAll (s : Step) : Prop :=
  ∃ t, (s.next = some t ∨ s.onError = some t) ∧ t.LacksCatchAll

end Step

namespace Workflow

/-- A workflow whose steps have kinds and lead to steps of it, beginning with its first one. -/
structure Sound (w : Workflow) : Prop where
  start : (w.step? w.startStepId).isSome
  kind : ∀ s ∈ w.steps, s.kind.isSome
  target : ∀ s ∈ w.steps, ∀ t, (s.next = some t ∨ s.onError = some t) → ∀ target ∈ t.targets,
    target ≠ endTarget → (w.step? target).isSome

theorem step?_id {w : Workflow} {id : String} {s : Step} (h : w.step? id = some s) : s.id = id := by
  simpa using List.find?_some h

theorem step?_mem {w : Workflow} {id : String} {s : Step} (h : w.step? id = some s) :
    s ∈ w.steps :=
  List.mem_of_find?_eq_some h

/-- The targets of a transition without defects are steps, or the end. -/
theorem target_of_violations {w : Workflow} {stepId slot target : String} {t : Transition}
    (h : t.violations w stepId slot = []) (htarget : target ∈ t.targets)
    (hend : target ≠ endTarget) : (w.step? target).isSome := by
  by_contra hnone
  -- For branches the check of targets is one of three.
  have hunknown : (t.targets.filter fun target => target ≠ endTarget ∧ (w.step? target).isNone).map
      (Violation.unknownTarget stepId slot) = [] := by
    cases t with
    | fixed target => exact h
    | branches bs =>
      have h := List.append_eq_nil_iff.1 h
      exact (List.append_eq_nil_iff.1 h.1).1
  rw [List.map_eq_nil_iff, List.filter_eq_nil_iff] at hunknown
  apply hunknown target htarget
  simpa [hend] using hnone

theorem sound_of_violations {patterns : PatternReader} {w : Workflow}
    (h : w.violations patterns = []) : w.Sound := by
  simp only [violations, List.append_eq_nil_iff, List.flatMap_eq_nil_iff] at h
  obtain ⟨⟨-, hstart⟩, hsteps⟩ := h
  have hstep : ∀ s ∈ w.steps, s.kindViolations = [] ∧
      ∀ t, (s.next = some t ∨ s.onError = some t) → ∃ slot, t.violations w s.id slot = [] := by
    intro s hs
    have hs := hsteps s hs
    simp only [Step.violations, List.append_eq_nil_iff] at hs
    obtain ⟨⟨⟨⟨⟨hkind, -⟩, -⟩, -⟩, hnext⟩, honError⟩ := hs
    refine ⟨hkind, ?_⟩
    rintro t (ht | ht)
    · rw [ht] at hnext
      exact ⟨_, hnext⟩
    · rw [ht] at honError
      exact ⟨_, honError⟩
  refine ⟨?_, ?_, ?_⟩
  · by_contra hnone
    simp [Option.not_isSome_iff_eq_none.1 hnone] at hstart
  · intro s hs
    have hkind := (hstep s hs).1
    cases hk : s.kind with
    | none => simp [Step.kindViolations, hk] at hkind
    | some k => rfl
  · intro s hs t ht target htarget hend
    obtain ⟨slot, hslot⟩ := (hstep s hs).2 t ht
    exact target_of_violations hslot htarget hend

end Workflow

namespace Registry

/-- The registries that come of registering workflows. -/
inductive Built : Registry → Prop
  | empty [PatternReader] : Built {}
  | register {r r' : Registry} {w : Workflow} (h : Built r) (hw : r.register w = .ok r') : Built r'

/-- A workflow without defects is registered first. -/
theorem built_singleton [PatternReader] {w : Workflow}
    (h : (Registry.violations {} w).isEmpty = true) : Built ⟨[w]⟩ := by
  refine .register (w := w) .empty ?_
  rw [Registry.register, if_pos h]

theorem get?_id {r : Registry} {id : String} {w : Workflow} (h : r.get? id = some w) :
    w.id = id := by
  simpa using List.find?_some h

theorem Built.violations {r : Registry} (h : Built r) :
    ∀ w ∈ r.workflows, w.violations r.patterns = [] := by
  induction h with
  | empty =>
    intro w hw
    cases hw
  | @register r r' w' h hw' ih =>
    simp only [Registry.register] at hw'
    split at hw'
    · rename_i hnone
      cases hw'
      intro w hw
      rcases List.mem_cons.1 hw with rfl | hw
      · exact (List.append_eq_nil_iff.1 (List.isEmpty_iff.1 hnone)).1
      · exact ih w hw
    · cases hw'

theorem Built.sound {r : Registry} (h : Built r) : ∀ w ∈ r.workflows, w.Sound :=
  fun w hw => Workflow.sound_of_violations (h.violations w hw)

end Registry

namespace Engine

variable {H : Type}

/-- An engine whose workflows are sound and whose actions all have handlers. -/
structure Checked (e : Engine H) : Prop where
  sound : ∀ {id w}, e.registry.get? id = some w → w.Sound
  stepAction : ∀ {id w s action}, e.registry.get? id = some w → s ∈ w.steps →
    s.action = some action → (e.actions.get? w.id action).isSome
  onComplete : ∀ {id w action}, e.registry.get? id = some w → w.onComplete = some action →
    (e.actions.get? w.id action).isSome

theorem handled_of_missingActions {e : Engine H} (h : Conversation.missingActions e = [])
    {id action : String} {w : Workflow} (hw : e.registry.get? id = some w)
    (haction : action ∈ w.actionNames) : (e.actions.get? w.id action).isSome := by
  -- Every registered id is looked at, and the workflow under an id has that id.
  have hid : w.id ∈ e.registry.ids :=
    Text.mem_sortNames.2 (List.mem_map.2 ⟨w, List.mem_of_find?_eq_some hw, rfl⟩)
  have hnone := List.filterMap_eq_nil_iff.1 h w.id hid
  rw [Registry.get?_id hw] at hnone
  simp only [hw, Option.bind_some] at hnone
  split at hnone
  · rename_i hmissing
    by_contra haction'
    have hmem : action ∈ e.actions.missingFor w :=
      List.mem_filter.2 ⟨haction, by simpa [Actions.contains] using haction'⟩
    rw [List.isEmpty_iff.1 hmissing] at hmem
    cases hmem
  · cases hnone

theorem checked_of_make {e : Engine H} {words : CommandWords} {autoStart : Option String}
    {conv : Conversation H} (hbuilt : e.registry.Built)
    (hmake : Conversation.make e words autoStart = .ok conv) : e.Checked := by
  have hmissing : Conversation.missingActions e = [] := by
    simp only [Conversation.make] at hmake
    split at hmake
    · rename_i hnone
      exact List.isEmpty_iff.1 hnone
    · cases hmake
  refine ⟨?_, ?_, ?_⟩
  · intro id w hw
    exact hbuilt.sound w (List.mem_of_find?_eq_some hw)
  · intro id w s action hw hs haction
    apply handled_of_missingActions hmissing hw
    apply Text.mem_sortNames.2
    exact List.mem_append_left _ (List.mem_filterMap.2 ⟨s, hs, haction⟩)
  · intro id w action hw haction
    apply handled_of_missingActions hmissing hw
    apply Text.mem_sortNames.2
    exact List.mem_append_right _ (by simp [haction])

end Engine

end Dialogue
