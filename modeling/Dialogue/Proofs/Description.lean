import Dialogue.Proofs.Rollback

namespace Dialogue

open Interaction

variable {H : Type}

structure Context.StandsAt (w : Workflow) (s : Step) (c : Context) : Prop where
  within : c.Within w
  registered : w.step? s.id = some s
  current : c.currentStepId = some s.id

theorem Context.start_within {w : Workflow} {s : Step} (now : Instant)
    (hs : w.step? w.startStepId = some s) : (Context.start w.id w.startStepId now).Within w := by
  refine ⟨rfl, ⟨s, Workflow.step?_self hs, ?_⟩, ?_⟩
  · rw [Workflow.step?_id hs]
    rfl
  · intro id hid
    cases hid

namespace Engine

/-- Whether a prompt says of a context what is the case: where it stands, what its variables are,
whether an input is expected there, and whether going back would move. -/
structure Shows (e : Engine H) (c : Context) (prompt : Prompt) : Prop where
  workflow : c.workflowId = some prompt.workflowId
  step : c.currentStepId = some prompt.stepId
  vars : prompt.vars = c.vars
  expectsInput : ∃ w s, e.locate c = .ok (w, s) ∧ prompt.expectsInput = s.isInteractive
  allowBack : prompt.allowBack = true ↔ ∃ c' prompt', e.goBack c = .ok (c', .moved prompt')

/-- Whether a result says of the context left with it what is the case. -/
def Describes (e : Engine H) (c : Context) : StepResult → Prop
  | .awaitingInput prompt _ => c.isActive = true ∧ e.Shows c prompt
  | .validationError _ prompt _ => c.isActive = true ∧ e.Shows c prompt
  | .serviceError stepId _ => c.isActive = true ∧ c.currentStepId = some stepId
  | .completed _ _ _ => c.isActive = false

variable {e : Engine H} {w : Workflow} {input : String} {session : SessionRef}

section Walks

variable {s : Step} {c k : Context} {action : Option String} {events : List (Event H)}
  {st st' : Stage}

/-- Whether the context of a stage is within a workflow, and at the step the stage names. -/
def Stage.Stands (w : Workflow) : Stage → Prop
  | .resuming s c => c.StandsAt w s
  | .arrived s c => c.StandsAt w s
  | .heading c _ => c.Within w
  | .ended (.waiting s c) => c.StandsAt w s
  | .ended (.refused _ s c) => c.StandsAt w s
  | .ended (.failed _ _) => True
  | .ended (.completed _) => True
  | .ended (.broken _) => True

theorem Acts.stands (h : Acts e w input session s c action events st) (hc : c.Within w) :
    st.Stands w := by
  obtain ⟨vars, d, rfl⟩ | ⟨failure, rfl⟩ | ⟨err, rfl, -⟩ := h.leads
  · exact hc.congr rfl rfl rfl
  · trivial
  · trivial

theorem awaiting_standsAt (hc : c.StandsAt w s) : (e.awaiting s c).StandsAt w s := by
  simp only [awaiting]
  split
  · have hstep : (w.step? s.id).isSome = true := by simp [hc.registered]
    exact ⟨hc.within.visit hstep _, hc.registered, hc.current⟩
  · exact hc

theorem Move.stands (h : Move e w input session st events st') (hst : st.Stands w)
    (hk : k.Within w) : st'.Stands w ∧ (held k events).Within w := by
  -- Where a step is entered its context becomes the one to go back to, so that one stands as well.
  cases h with
  | kindless hkind => exact ⟨trivial, hk⟩
  | @refused s c kind reason hkind hinteractive hcheck =>
    have hc : c.StandsAt w s := hst
    exact ⟨⟨hc.within.congr rfl rfl rfl, hc.registered, hc.current⟩, hk⟩
  | @accepted s c kind value events st hkind hinteractive hcheck hacts =>
    have hc : c.StandsAt w s := hst
    have hset : Context.Within w { c.set s.id value with retryCount := 0 } :=
      hc.within.congr rfl rfl rfl
    have hstep : (w.step? s.id).isSome = true := by simp [hc.registered]
    rw [held_of_entrances k hacts.entrances]
    exact ⟨hacts.stands (hset.visit hstep _), hk⟩
  | @resumed s c kind events st hkind hinteractive hacts =>
    have hc : c.StandsAt w s := hst
    rw [held_of_entrances k hacts.entrances]
    exact ⟨hacts.stands hc.within, hk⟩
  | missing hstep => exact ⟨trivial, hk⟩
  | @entered c id s hstep =>
    have hself := Workflow.step?_self hstep
    have hc : c.Within w := hst
    have hmoved := hc.moveTo hself
    rw [held_entered, held_nil]
    exact ⟨⟨hmoved, hself, rfl⟩, hmoved⟩
  | @waits s c hauto => exact ⟨awaiting_standsAt hst, hk⟩
  | stumbles hauto hkind => exact ⟨trivial, hk⟩
  | @runs s c kind events st hauto hkind hacts =>
    have hc : c.StandsAt w s := hst
    rw [held_of_entrances k hacts.entrances]
    exact ⟨hacts.stands hc.within, hk⟩
  | completed hhook => exact ⟨trivial, hk⟩
  | unhooked hhook h => exact ⟨trivial, hk⟩
  | @closed c hook handler hhook h x =>
    refine ⟨?_, hk⟩
    cases x with
    | error failure => trivial
    | ok report =>
      by_cases hsuccess : report.success = true
      · simp [hooked, hsuccess, Stage.Stands]
      · simp [hooked, hsuccess, Stage.Stands]

theorem Walk.stands (h : Walk e w input session st events st') (hst : st.Stands w)
    (hk : k.Within w) : st'.Stands w ∧ (held k events).Within w := by
  induction h generalizing k with
  | nil st => exact ⟨hst, hk⟩
  | cons hmove hwalk ih =>
    obtain ⟨hst₁, hk₁⟩ := hmove.stands hst hk
    rw [held_append]
    exact ih hst₁ hk₁

end Walks

section GoingBack

variable {s : Step} {c c' : Context} {error : Option Reason}
  (hget : e.registry.get? w.id = some w)
include hget

omit hget in
theorem length_withoutCurrent (c : Context) (stepId : String) :
    c.history.length - 1 ≤ (withoutCurrent c stepId).length := by
  simp only [withoutCurrent]
  split
  · exact Nat.le_of_eq List.length_dropLast.symm
  · exact Nat.sub_le _ _

theorem locate_standsAt (hc : c.StandsAt w s) : e.locate c = .ok (w, s) :=
  locate_eq_ok_iff.2 ⟨hget, hc.within.workflow, hc.registered, hc.current⟩

/-- Going back moves exactly when the step allows it and another visit is left to go back to. -/
theorem goBack_moves_iff (hc : c.StandsAt w s) :
    (∃ c' prompt, e.goBack c = .ok (c', .moved prompt)) ↔
      s.allowBack = true ∧ s.isInteractive = true ∧ 2 ≤ c.history.length := by
  simp only [goBack, locate_standsAt hget hc, Bind.bind, Except.bind]
  constructor
  · rintro ⟨c', prompt, h⟩
    split at h
    · cases h
    · rename_i hallowed
      simp only [Bool.or_eq_true, Bool.not_eq_true', decide_eq_true_eq, not_or,
        Bool.not_eq_false, Nat.not_lt, and_assoc] at hallowed
      exact hallowed
  · rintro ⟨hback, hinteractive, htwo⟩
    -- Of two visits at least one is left without the current one, and it was to a step.
    have hleft : withoutCurrent c s.id ≠ [] := by
      intro hnil
      have hlength := length_withoutCurrent c s.id
      rw [hnil, List.length_nil] at hlength
      omega
    obtain ⟨id, hlast⟩ := Option.ne_none_iff_exists'.1 (mt List.getLast?_eq_none_iff.1 hleft)
    have hmem := withoutCurrent_subset (List.mem_of_getLast? hlast)
    obtain ⟨target, htarget⟩ := Option.isSome_iff_exists.1 (hc.within.history id hmem)
    simp [hback, hinteractive, Nat.not_lt.2 htwo, hlast, htarget]

/-- A prompt for the step a context stands at says what is the case. -/
theorem prompt_shows (hc : c.StandsAt w s) : e.Shows c (w.prompt s c error) where
  workflow := hc.within.workflow
  step := hc.current
  vars := rfl
  expectsInput := ⟨w, s, locate_standsAt hget hc, rfl⟩
  allowBack := by
    rw [goBack_moves_iff hget hc]
    simp [Workflow.prompt, and_assoc]

/-- Going back stands at the step it prompts for, or stays within the workflow. -/
theorem goBack_standsAt {navigation : Navigation} (hc : c.StandsAt w s)
    (h : e.goBack c = .ok (c', navigation)) :
    c'.Within w ∧ ∀ prompt, navigation = .moved prompt →
      ∃ target, c'.StandsAt w target ∧ prompt = w.prompt target c' none := by
  simp only [goBack, locate_standsAt hget hc, Bind.bind, Except.bind] at h
  have hearlier : Context.Within w { c with history := withoutCurrent c s.id } :=
    ⟨hc.within.workflow, hc.within.step,
      fun id hid => hc.within.history id (withoutCurrent_subset hid)⟩
  split at h
  · cases h
    exact ⟨hc.within, by simp⟩
  · split at h
    · cases h
      exact ⟨hearlier, by simp⟩
    · rename_i id hlast
      cases htarget : w.step? id with
      | none => simp [htarget] at h
      | some target =>
        simp only [htarget] at h
        cases h
        have hself := Workflow.step?_self htarget
        have hthere : Context.Within w
            { Context.moveTo { c with history := withoutCurrent c s.id } target.id with
              retryCount := 0 } := (hearlier.moveTo hself).congr rfl rfl rfl
        refine ⟨hthere, fun prompt hprompt => ⟨target, ⟨hthere, hself, rfl⟩, ?_⟩⟩
        cases hprompt
        rfl

end GoingBack

section Turns

variable {c c' k : Context} {st : Stage} {budget : Nat} {log : CallLog H} {r : StepResult}
  {id : String}

theorem workflowId_ne_none_of_processInput
    (h : After (e.processInput c input session) log (.done (.ok (c', r)))) :
    c.workflowId ≠ none := by
  intro hidle
  simp only [processInput, locate_idle hidle] at h
  cases (after_done_iff.1 h).2

theorem workflowId_ne_none_of_goBack {navigation : Navigation}
    (h : e.goBack c = .ok (c', navigation)) : c.workflowId ≠ none := by
  intro hidle
  simp [goBack, locate_idle hidle, Bind.bind, Except.bind] at h

theorem isActive_of_isAt {workflowId : String} (h : c.IsAt (some workflowId) id) :
    c.isActive = true := by
  simp [Context.isActive, h.1, h.2]

/-- A turn that begins within a workflow ends with a result that describes what it leaves. -/
theorem Ends.describes (h : Ends e w input session budget [] k st log (.ok (c', r)))
    (hget : e.registry.get? w.id = some w) (hst : st.Stands w)
    (hk : k.Within w) (hat : st.IsAt (some w.id) id) (hkat : k.IsAt (some w.id) id) :
    e.Describes c' r ∧ (c'.workflowId = none ∨ c'.Within w) := by
  obtain ⟨events, f, hwalk, -, -, hresult⟩ := h.of_ok
  obtain ⟨hfinish, hheld⟩ := hwalk.stands hst hk
  obtain ⟨id', hid, hheldAt⟩ := hwalk.isAt hat hkat
  cases f with
  | waiting s c =>
    cases hresult
    have hc : c'.StandsAt w s := hfinish
    exact ⟨⟨hc.within.isActive, prompt_shows hget hc⟩, .inr hc.within⟩
  | refused reason s c =>
    cases hresult
    have hc : c'.StandsAt w s := hfinish
    exact ⟨⟨hc.within.isActive, prompt_shows hget hc⟩, .inr hc.within⟩
  | failed stepId failure =>
    cases hresult
    obtain rfl : stepId = id' := hid
    exact ⟨⟨isActive_of_isAt hheldAt, hheldAt.2⟩, .inr hheld⟩
  | completed c =>
    cases hresult
    exact ⟨rfl, .inl rfl⟩
  | broken err => cases hresult

/-- A context within a registered workflow stands at a step of it. -/
theorem exists_standsAt (hc : c.Within w) : ∃ s, c.StandsAt w s := by
  obtain ⟨s, hs, hcurrent⟩ := hc.step
  exact ⟨s, hc, hs, hcurrent⟩

theorem start_describes {now : Instant} (hbuilt : e.registry.Built)
    (hget : e.registry.get? id = some w)
    (h : After (e.start id now session) log (.done (.ok (c', r)))) :
    e.Describes c' r ∧ (c'.workflowId = none ∨ c'.Within w) := by
  have hget' : e.registry.get? w.id = some w := by rwa [Registry.get?_id hget]
  have hsound := hbuilt.sound w (List.mem_of_find?_eq_some hget)
  obtain ⟨s, hs⟩ := Option.isSome_iff_exists.1 hsound.start
  have hstart := Context.start_within now hs
  have hat : (Context.start w.id w.startStepId now).IsAt (some w.id) w.startStepId := ⟨rfl, rfl⟩
  exact ((after_start_iff hget).1 h).describes hget' hstart hstart hat hat

theorem processInput_describes (hget : e.registry.get? w.id = some w) (hc : c.Within w)
    (h : After (e.processInput c input session) log (.done (.ok (c', r)))) :
    e.Describes c' r ∧ (c'.workflowId = none ∨ c'.Within w) := by
  obtain ⟨s, hs⟩ := exists_standsAt hc
  have hat : c.IsAt (some w.id) s.id := ⟨hc.workflow, hs.current⟩
  have hends := (after_processInput_iff (locate_standsAt hget hs)).1 h
  exact hends.describes hget hs hc ⟨rfl, hat⟩ hat

/-- Every context reached is idle or within a registered workflow, whether or not its actions have
handlers. -/
theorem Reached.ready_of_built (h : e.Reached c) (hbuilt : e.registry.Built) : e.Ready c := by
  induction h with
  | idle => exact .inl rfl
  | @started id w now session log c result hget h =>
    have hget' : e.registry.get? w.id = some w := by rwa [Registry.get?_id hget]
    exact (start_describes hbuilt hget h).2.imp_right fun hc => ⟨w, hget', hc⟩
  | @answered c c' input session log result hc h ih =>
    rcases ih with hidle | ⟨w, hget, hwithin⟩
    · exact absurd hidle (workflowId_ne_none_of_processInput h)
    · exact (processInput_describes hget hwithin h).2.imp_right fun hc => ⟨w, hget, hc⟩
  | @wentBack c c' navigation hc h ih =>
    rcases ih with hidle | ⟨w, hget, hwithin⟩
    · exact absurd hidle (workflowId_ne_none_of_goBack h)
    · obtain ⟨s, hs⟩ := exists_standsAt hwithin
      exact .inr ⟨w, hget, (goBack_standsAt hget hs h).1⟩
  | cancelled hc ih => exact .inl rfl
  | stamped hc version ih =>
    rcases ih with hidle | ⟨w, hget, hwithin⟩
    · exact .inl hidle
    · exact .inr ⟨w, hget, hwithin.congr rfl rfl rfl⟩

theorem Reached.within (h : e.Reached c) (hbuilt : e.registry.Built)
    (hget : e.registry.get? w.id = some w) (hc : c.workflowId = some w.id) : c.Within w := by
  rcases h.ready_of_built hbuilt with hidle | ⟨w', hget', hwithin⟩
  · rw [hc] at hidle
    cases hidle
  · have hsame : w'.id = w.id := Option.some.inj (hwithin.workflow.symm.trans hc)
    rw [hsame, hget] at hget'
    cases hget'
    exact hwithin

end Turns

/-- Every result describes the context it comes with, and so does the prompt of a step gone back
to. -/
theorem results_describe (hbuilt : e.registry.Built) :
    (∀ id now session log c r, After (e.start id now session) log (.done (.ok (c, r))) →
      e.Describes c r) ∧
    (∀ c input session log c' r, e.Reached c →
      After (e.processInput c input session) log (.done (.ok (c', r))) → e.Describes c' r) ∧
    ∀ c c' navigation, e.Reached c → e.goBack c = .ok (c', navigation) →
      c'.isActive = true ∧ ∀ prompt, navigation = .moved prompt → e.Shows c' prompt := by
  refine ⟨?_, ?_, ?_⟩
  · intro id now session log c r h
    cases hget : e.registry.get? id with
    | none =>
      simp only [start, workflow, hget] at h
      cases (after_done_iff.1 h).2
    | some w => exact (start_describes hbuilt hget h).1
  · intro c input session log c' r hc h
    rcases hc.ready_of_built hbuilt with hidle | ⟨w, hget, hwithin⟩
    · exact absurd hidle (workflowId_ne_none_of_processInput h)
    · exact (processInput_describes hget hwithin h).1
  · intro c c' navigation hc h
    rcases hc.ready_of_built hbuilt with hidle | ⟨w, hget, hwithin⟩
    · exact absurd hidle (workflowId_ne_none_of_goBack h)
    · obtain ⟨s, hs⟩ := exists_standsAt hwithin
      obtain ⟨hwithin', hmoved⟩ := goBack_standsAt hget hs h
      refine ⟨hwithin'.isActive, fun prompt hprompt => ?_⟩
      obtain ⟨target, htarget, rfl⟩ := hmoved prompt hprompt
      exact prompt_shows hget htarget

def interview : Workflow where
  id := "interview"
  startStepId := "name"
  steps := [
    { id := "name", kind := some .input, next := some (.fixed "town") },
    { id := "town", kind := some .input }]

def interviewer : Engine Unit where
  registry := ⟨[interview]⟩
  actions := {}

def askedName : Context where
  workflowId := some "interview"
  currentStepId := some "name"
  history := ["name"]
  startedAt := some ⟨0, 0⟩

def askedTown : Context :=
  { askedName with
    currentStepId := some "town"
    vars := [("name", .text (Text.trim "Ada"))]
    history := ["name", "town"] }

/-- The second question offers the way back, and going back moves. -/
theorem results_describe_interview : interviewer.registry.Built ∧ interviewer.Reached askedName ∧
    After (interviewer.processInput askedName "Ada" ⟨"user", none⟩) []
      (.done (.ok (askedTown,
        .awaitingInput (interview.prompt interview.steps[1] askedTown none) []))) ∧
    (interview.prompt interview.steps[1] askedTown none).allowBack = true ∧
    ∃ c prompt, interviewer.goBack askedTown = .ok (c, .moved prompt) := by
  have hbuilt : interviewer.registry.Built := Registry.built_singleton (by decide +kernel)
  have hstart : After (interviewer.start "interview" ⟨0, 0⟩ ⟨"user", none⟩) []
      (.done (.ok (askedName,
        .awaitingInput (interview.prompt interview.steps[0] askedName none) []))) := .nil _
  have hreached : interviewer.Reached askedName := .started (w := interview) rfl hstart
  have hanswer : After (interviewer.processInput askedName "Ada" ⟨"user", none⟩) []
      (.done (.ok (askedTown,
        .awaitingInput (interview.prompt interview.steps[1] askedTown none) []))) := .nil _
  obtain ⟨-, hshows⟩ := (results_describe hbuilt).2.1 _ _ _ _ _ _ hreached hanswer
  have hback : (interview.prompt interview.steps[1] askedTown none).allowBack = true := rfl
  exact ⟨hbuilt, hreached, hanswer, hback, hshows.allowBack.1 hback⟩

end Engine

end Dialogue
