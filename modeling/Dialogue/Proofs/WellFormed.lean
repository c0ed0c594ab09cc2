import Dialogue.Proofs.Simulation
import Mathlib.Data.List.Chain

namespace Dialogue

open Interaction

variable {H : Type}

/-- A history of visits to interactive steps, at most `limit`, no step twice in a row. -/
structure Workflow.Trail (w : Workflow) (limit : Nat) (history : List String) : Prop where
  length : history.length ≤ limit
  interactive : ∀ id ∈ history, ∃ s, w.step? id = some s ∧ s.isInteractive = true
  distinct : history.IsChain (· ≠ ·)

namespace Context

/-- A context on the way through a workflow, with no attempt counted. -/
structure Underway (w : Workflow) (limit : Nat) (c : Context) : Prop where
  workflow : c.workflowId = some w.id
  trail : w.Trail limit c.history
  retries : c.retryCount = 0

structure RestsAt (w : Workflow) (limit : Nat) (s : Step) (c : Context) : Prop where
  workflow : c.workflowId = some w.id
  registered : w.step? s.id = some s
  current : c.currentStepId = some s.id
  trail : w.Trail limit c.history
  last : s.isInteractive = true → c.history.getLast? = some s.id
  retries : s.isInteractive = false → c.retryCount = 0

/-- A context that rests at some step of a workflow. -/
def WellFormed (w : Workflow) (limit : Nat) (c : Context) : Prop := ∃ s, c.RestsAt w limit s

theorem getLast?_extendHistory {limit : Nat} (hlimit : 1 ≤ limit) (history : List String)
    (id : String) : (extendHistory limit history id).getLast? = some id := by
  simp only [extendHistory]
  split
  · assumption
  · rw [lastEntries, List.getLast?_drop, if_neg]
    · exact List.getLast?_concat
    · rw [List.length_append, List.length_singleton]
      omega

end Context

namespace Workflow

variable {w : Workflow} {limit : Nat} {history : List String} {s : Step}

theorem Trail.nil : w.Trail limit [] :=
  ⟨Nat.zero_le _, by simp, List.isChain_nil⟩

theorem Trail.extend (h : w.Trail limit history) (hs : w.step? s.id = some s)
    (hinteractive : s.isInteractive = true) :
    w.Trail limit (Context.extendHistory limit history s.id) := by
  simp only [Context.extendHistory]
  split
  · exact h
  · rename_i hlast
    have hdistinct : (history ++ [s.id]).IsChain (· ≠ ·) := by
      refine h.distinct.append (List.isChain_singleton _) ?_
      intro id hid id' hid'
      cases hid'
      rintro rfl
      exact hlast hid
    refine ⟨?_, ?_, hdistinct.drop _⟩
    · rw [Context.lastEntries, List.length_drop]
      omega
    · intro id hid
      rcases List.mem_append.1 (List.mem_of_mem_drop hid) with hid | hid
      · exact h.interactive id hid
      · rw [List.mem_singleton.1 hid]
        exact ⟨s, hs, hinteractive⟩

theorem Trail.dropLast (h : w.Trail limit history) : w.Trail limit history.dropLast := by
  refine ⟨?_, fun id hid => h.interactive id (List.dropLast_subset _ hid), h.distinct.dropLast⟩
  rw [List.length_dropLast]
  exact Nat.le_trans (Nat.sub_le _ _) h.length

end Workflow

namespace Context

variable {w : Workflow} {limit : Nat} {c : Context} {s : Step}

/-- A step that is not interactive needs no end of the trail. -/
theorem Underway.restsAt (h : c.Underway w limit) (hs : w.step? s.id = some s)
    (hcurrent : c.currentStepId = some s.id) (hnot : s.isInteractive = false) :
    c.RestsAt w limit s where
  workflow := h.workflow
  registered := hs
  current := hcurrent
  trail := h.trail
  last := by simp [hnot]
  retries := fun _ => h.retries

theorem Underway.visit (h : c.Underway w limit) (hlimit : 1 ≤ limit) (hs : w.step? s.id = some s)
    (hcurrent : c.currentStepId = some s.id) (hinteractive : s.isInteractive = true) :
    (c.visit s.id limit).RestsAt w limit s where
  workflow := h.workflow
  registered := hs
  current := hcurrent
  trail := h.trail.extend hs hinteractive
  last := fun _ => getLast?_extendHistory hlimit c.history s.id
  retries := by simp [hinteractive]

theorem Underway.moveTo (h : c.Underway w limit) (stepId : String) :
    (c.moveTo stepId).Underway w limit := by
  refine ⟨h.workflow, h.trail, ?_⟩
  simp only [Context.moveTo, h.retries, ite_self]

theorem RestsAt.underway (h : c.RestsAt w limit s) (hnot : s.isInteractive = false) :
    c.Underway w limit :=
  ⟨h.workflow, h.trail, h.retries hnot⟩

theorem RestsAt.isActive (h : c.RestsAt w limit s) : c.isActive = true := by
  simp [Context.isActive, h.workflow, h.current]

end Context

namespace Engine

variable {e : Engine H} {w : Workflow} {input : String} {session : SessionRef}

section Walks

variable {s : Step} {c k : Context} {action : Option String} {limit : Nat}
  {events : List (Event H)} {st st' : Stage}

/-- What holds at a stage, of the context there and of the one to go back to. -/
def Stage.Keeps (w : Workflow) (limit : Nat) (k : Context) : Stage → Prop
  | .resuming s c => c.RestsAt w limit s ∧ k.WellFormed w limit
  | .arrived s c => c.Underway w limit ∧ w.step? s.id = some s ∧ c.currentStepId = some s.id ∧
      (s.isAutomatic = true → k.WellFormed w limit)
  | .heading c d => c.Underway w limit ∧ (d = .finish → k.WellFormed w limit)
  | .ended (.waiting _ c) => c.WellFormed w limit
  | .ended (.refused _ _ c) => c.WellFormed w limit
  | .ended (.failed _ _) => k.WellFormed w limit
  | .ended (.completed _) => True
  | .ended (.broken _) => True

theorem Acts.keeps (h : Acts e w input session s c action events st) (hc : c.Underway w limit)
    (hk : k.WellFormed w limit) : st.Keeps w limit k := by
  obtain ⟨vars, d, rfl⟩ | ⟨failure, rfl⟩ | ⟨err, rfl, -⟩ := h.leads
  · exact ⟨⟨hc.workflow, hc.trail, hc.retries⟩, fun _ => hk⟩
  · exact hk
  · trivial

theorem Move.keeps (h : Move e w input session st events st')
    (hlimit : 1 ≤ e.limits.historyLimit) (hst : st.Keeps w e.limits.historyLimit k) :
    st'.Keeps w e.limits.historyLimit (held k events) := by
  cases h with
  | kindless hkind => trivial
  | @refused s c kind reason hkind hinteractive hcheck =>
    have hs : s.isInteractive = true := by rw [Workflow.isInteractive_of_kindOf hkind, hinteractive]
    have hc : c.RestsAt w e.limits.historyLimit s := hst.1
    exact ⟨s, hc.workflow, hc.registered, hc.current, hc.trail, hc.last, by simp [hs]⟩
  | @accepted s c kind value events st hkind hinteractive hcheck hacts =>
    have hs : s.isInteractive = true := by rw [Workflow.isInteractive_of_kindOf hkind, hinteractive]
    have hc : c.RestsAt w e.limits.historyLimit s := hst.1
    rw [held_of_entrances k hacts.entrances]
    exact hacts.keeps ⟨hc.workflow, hc.trail.extend hc.registered hs, rfl⟩ hst.2
  | @resumed s c kind events st hkind hinteractive hacts =>
    have hs : s.isInteractive = false := by
      rw [Workflow.isInteractive_of_kindOf hkind, hinteractive]
    rw [held_of_entrances k hacts.entrances]
    exact hacts.keeps (hst.1.underway hs) hst.2
  | missing hstep => trivial
  | @entered c id s hstep =>
    -- An automatic step is where a failed call leads back to, so the context must rest there.
    have hmoved := hst.1.moveTo s.id
    have hself := Workflow.step?_self hstep
    refine ⟨hmoved, hself, rfl, fun hauto => ⟨s, ?_⟩⟩
    rw [held_entered, held_nil]
    exact hmoved.restsAt hself rfl (Step.isInteractive_of_isAutomatic hauto)
  | @waits s c hauto =>
    obtain ⟨hc, hs, hcurrent, -⟩ := hst
    refine ⟨s, ?_⟩
    simp only [awaiting]
    split
    · rename_i hinteractive
      exact hc.visit hlimit hs hcurrent hinteractive
    · rename_i hnot
      exact hc.restsAt hs hcurrent (by simpa using hnot)
  | stumbles hauto hkind => trivial
  | runs hauto hkind hacts =>
    rw [held_of_entrances k hacts.entrances]
    exact hacts.keeps hst.1 (hst.2.2.2 hauto)
  | completed hhook => trivial
  | unhooked hhook h => trivial
  | closed hhook h x =>
    have hk : k.WellFormed w e.limits.historyLimit := hst.2 rfl
    rw [held_of_entrances k rfl]
    cases x with
    | error failure => exact hk
    | ok report =>
      by_cases hsuccess : report.success = true
      · simp [hooked, hsuccess, Stage.Keeps]
      · simpa [hooked, hsuccess, Stage.Keeps] using hk

theorem Walk.keeps (h : Walk e w input session st events st')
    (hlimit : 1 ≤ e.limits.historyLimit) (hst : st.Keeps w e.limits.historyLimit k) :
    st'.Keeps w e.limits.historyLimit (held k events) := by
  induction h generalizing k with
  | nil st => exact hst
  | cons hmove hwalk ih =>
    rw [held_append]
    exact ih (hmove.keeps hlimit hst)

/-- A turn that begins in shape leaves nothing, or a context in shape. -/
theorem Ends.wellFormed {budget : Nat} {log : CallLog H} {c' : Context} {r : StepResult}
    (h : Ends e w input session budget [] k st log (.ok (c', r)))
    (hlimit : 1 ≤ e.limits.historyLimit) (hst : st.Keeps w e.limits.historyLimit k) :
    c' = { version := c'.version } ∨ c'.WellFormed w e.limits.historyLimit := by
  obtain ⟨events, f, hwalk, -, -, hresult⟩ := h.of_ok
  have hfinish := hwalk.keeps hlimit hst
  cases f with
  | waiting s c =>
    cases hresult
    exact .inr hfinish
  | refused reason s c =>
    cases hresult
    exact .inr hfinish
  | failed stepId failure =>
    cases hresult
    exact .inr hfinish
  | completed c =>
    cases hresult
    exact .inl rfl
  | broken err => cases hresult

end Walks

section Contexts

variable {c c' : Context} {limit : Nat}

/-- A well-formed context of a registered workflow is located at a step it rests at. -/
theorem locate_wellFormed (hget : e.registry.get? w.id = some w) (hc : c.WellFormed w limit) :
    ∃ s, e.locate c = .ok (w, s) ∧ c.RestsAt w limit s := by
  obtain ⟨s, hs⟩ := hc
  exact ⟨s, locate_eq_ok_iff.2 ⟨hget, hs.workflow, hs.registered, hs.current⟩, hs⟩

/-- Going back leaves the trail up to the step before. -/
theorem goBack_wellFormed {navigation : Navigation} (hget : e.registry.get? w.id = some w)
    (hc : c.WellFormed w limit) (h : e.goBack c = .ok (c', navigation)) :
    c'.WellFormed w limit := by
  obtain ⟨s, hlocate, hs⟩ := locate_wellFormed hget hc
  simp only [goBack, hlocate, Bind.bind, Except.bind] at h
  split at h
  · cases h
    exact ⟨s, hs⟩
  · rename_i hallowed
    simp only [Bool.or_eq_true, Bool.not_eq_true', decide_eq_true_eq, not_or, Bool.not_eq_false,
      Nat.not_lt] at hallowed
    obtain ⟨⟨-, hinteractive⟩, htwo⟩ := hallowed
    have hearlier : withoutCurrent c s.id = c.history.dropLast := by
      rw [withoutCurrent, if_pos (hs.last hinteractive)]
    rw [hearlier] at h
    split at h
    · -- There were two visits at least, so one is left.
      rename_i hnone
      rw [List.getLast?_eq_none_iff] at hnone
      have hlength := congrArg List.length hnone
      rw [List.length_dropLast, List.length_nil] at hlength
      omega
    · rename_i id hlast
      cases hstep : w.step? id with
      | none => simp [hstep] at h
      | some target =>
        simp only [hstep] at h
        cases h
        have hid := Workflow.step?_id hstep
        refine ⟨target, hs.workflow, Workflow.step?_self hstep, rfl, hs.trail.dropLast, ?_, ?_⟩
        · intro _
          rw [hid]
          exact hlast
        · intro _
          rfl

end Contexts

/-- Every context that starting, taking inputs, going back and cancelling come to is empty but for
its version, or it rests at a step of its workflow, with a trail of interactive steps that ends
there if that step is interactive, and with attempts counted only then. -/
theorem reached_wellFormed {c : Context} (hlimit : 1 ≤ e.limits.historyLimit) (h : e.Reached c) :
    c.isActive = false ∧ c = { version := c.version } ∨
      c.isActive = true ∧ ∃ w, e.registry.get? w.id = some w ∧
        c.WellFormed w e.limits.historyLimit := by
  suffices hshape : c = { version := c.version } ∨
      ∃ w, e.registry.get? w.id = some w ∧ c.WellFormed w e.limits.historyLimit by
    rcases hshape with hempty | ⟨w, hget, s, hs⟩
    · exact .inl ⟨by rw [hempty]; rfl, hempty⟩
    · exact .inr ⟨hs.isActive, w, hget, s, hs⟩
  -- By induction on the way to the context; each call leaves a trail that ends where it stands.
  induction h with
  | idle => exact .inl rfl
  | @started id w now session log c result hget h =>
    have hends := (after_start_iff hget).1 h
    have hget' : e.registry.get? w.id = some w := by rwa [Registry.get?_id hget]
    refine (hends.wellFormed hlimit ⟨⟨rfl, .nil, rfl⟩, ?_⟩).imp_right fun hc => ⟨w, hget', hc⟩
    intro hfinish
    cases hfinish
  | @answered c c' input session log result hc h ih =>
    rcases ih with hempty | ⟨w, hget, hwell⟩
    · -- On an empty context an input fails.
      have hidle : c.workflowId = none := by rw [hempty]
      simp only [processInput, locate_idle hidle] at h
      cases (after_done_iff.1 h).2
    · obtain ⟨s, hlocate, hs⟩ := locate_wellFormed hget hwell
      have hends := (after_processInput_iff hlocate).1 h
      exact (hends.wellFormed hlimit ⟨hs, hwell⟩).imp_right fun hc => ⟨w, hget, hc⟩
  | @wentBack c c' navigation hc h ih =>
    rcases ih with hempty | ⟨w, hget, hwell⟩
    · have hidle : c.workflowId = none := by rw [hempty]
      simp [goBack, locate_idle hidle, Bind.bind, Except.bind] at h
    · exact .inr ⟨w, hget, goBack_wellFormed hget hwell h⟩
  | cancelled hc ih => exact .inl rfl
  | @stamped c hc version ih =>
    rcases ih with hempty | ⟨w, hget, s, hs⟩
    · left
      rw [hempty]
    · exact .inr ⟨w, hget, s, hs.workflow, hs.registered, hs.current, hs.trail, hs.last, hs.retries⟩

def found : CallLog Unit :=
  [⟨⟨(), ⟨"signup", "lookup", [], [], "", ⟨"user", none⟩⟩⟩, .ok { success := true }⟩]

def asked : Context where
  workflowId := some "signup"
  currentStepId := some "ask"
  history := ["ask"]
  startedAt := some ⟨0, 0⟩

theorem reached_wellFormed_signup : 1 ≤ desk.limits.historyLimit ∧ desk.Reached asked ∧
    ∃ w, desk.registry.get? w.id = some w ∧ asked.WellFormed w desk.limits.historyLimit := by
  have hlimit : 1 ≤ desk.limits.historyLimit := by decide
  have hstart : After (desk.start "signup" ⟨0, 0⟩ ⟨"user", none⟩) found
      (.done (.ok (asked, .awaitingInput (signup.prompt signup.steps[1] asked none) []))) :=
    .cons _ (.nil _)
  have hreached : desk.Reached asked := .started (w := signup) rfl hstart
  refine ⟨hlimit, hreached, ?_⟩
  rcases reached_wellFormed hlimit hreached with ⟨hidle, -⟩ | ⟨-, hwell⟩
  · exact absurd hidle (by decide)
  · exact hwell

end Engine

end Dialogue
