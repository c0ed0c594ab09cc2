import Dialogue.Proofs.Simulation

namespace Dialogue

open Interaction

variable {H : Type}

/-- Whether a context is at a step of a workflow, by their ids. -/
def Context.IsAt (workflowId : Option String) (stepId : String) (c : Context) : Prop :=
  c.workflowId = workflowId ∧ c.currentStepId = some stepId

namespace Engine

variable {e : Engine H} {w : Workflow} {input : String} {session : SessionRef}

section Positions

variable {s : Step} {c k : Context} {workflowId : Option String} {id : String}
  {action : Option String} {events : List (Event H)} {st st' : Stage}

def Stage.IsAt (workflowId : Option String) (id : String) : Stage → Prop
  | .resuming s c => s.id = id ∧ c.IsAt workflowId id
  | .arrived s c => s.id = id ∧ c.IsAt workflowId id
  | .heading c _ => c.IsAt workflowId id
  | .ended (.waiting s c) => s.id = id ∧ c.IsAt workflowId id
  | .ended (.refused _ s c) => s.id = id ∧ c.IsAt workflowId id
  | .ended (.failed stepId _) => stepId = id
  | .ended (.completed c) => c.IsAt workflowId id
  | .ended (.broken _) => True

theorem Acts.isAt (h : Acts e w input session s c action events st) (hstep : s.id = id)
    (hc : c.IsAt workflowId id) : st.IsAt workflowId id := by
  obtain ⟨vars, d, rfl⟩ | ⟨failure, rfl⟩ | ⟨err, rfl, -⟩ := h.leads
  · exact hc
  · exact hstep
  · trivial

/-- A turn stays at the step of the context it held last. -/
theorem Move.isAt (h : Move e w input session st events st') (hst : st.IsAt workflowId id)
    (hk : k.IsAt workflowId id) :
    ∃ id', st'.IsAt workflowId id' ∧ (held k events).IsAt workflowId id' := by
  -- Without an entered step the context held is still `k`.
  have hstays : entrances events = [] → st'.IsAt workflowId id →
      ∃ id', st'.IsAt workflowId id' ∧ (held k events).IsAt workflowId id' := by
    intro hentrances hst'
    rw [held_of_entrances k hentrances]
    exact ⟨id, hst', hk⟩
  cases h with
  | kindless hkind => exact hstays rfl trivial
  | refused hkind hinteractive hcheck => exact hstays rfl hst
  | accepted hkind hinteractive hcheck hacts =>
    exact hstays hacts.entrances (hacts.isAt hst.1 hst.2)
  | resumed hkind hinteractive hacts => exact hstays hacts.entrances (hacts.isAt hst.1 hst.2)
  | missing hstep => exact hstays rfl trivial
  | @entered c id s hstep => exact ⟨s.id, ⟨rfl, hst.1, rfl⟩, hst.1, rfl⟩
  | @waits s c hauto =>
    refine hstays rfl ⟨hst.1, ?_⟩
    simp only [awaiting]
    split
    · exact hst.2
    · exact hst.2
  | stumbles hauto hkind => exact hstays rfl trivial
  | runs hauto hkind hacts => exact hstays hacts.entrances (hacts.isAt hst.1 hst.2)
  | completed hhook => exact hstays rfl hst
  | unhooked hhook h => exact hstays rfl trivial
  | @closed c hook handler hhook h x =>
    have hc : c.IsAt workflowId id := hst
    refine hstays rfl ?_
    cases x with
    | error failure => simp [hooked, Stage.IsAt, hc.2]
    | ok report =>
      by_cases hsuccess : report.success = true
      · simp only [hooked, hsuccess, if_true, Stage.IsAt]
        exact hc
      · simp [hooked, hsuccess, Stage.IsAt, hc.2]

theorem Walk.isAt (h : Walk e w input session st events st') (hst : st.IsAt workflowId id)
    (hk : k.IsAt workflowId id) :
    ∃ id', st'.IsAt workflowId id' ∧ (held k events).IsAt workflowId id' := by
  induction h generalizing id k with
  | nil st => exact ⟨id, hst, hk⟩
  | cons hmove hwalk ih =>
    obtain ⟨id₁, hst₁, hk₁⟩ := hmove.isAt hst hk
    obtain ⟨id₂, hst₂, hk₂⟩ := ih hst₁ hk₁
    exact ⟨id₂, hst₂, by rwa [held_append]⟩

end Positions

/-- A turn with a failed call leaves the context held last. -/
theorem failed_of_serviceError {c c' : Context} {s : Step} {log : CallLog H} {stepId : String}
    {failure : CallFailure} (hlocate : e.locate c = .ok (w, s))
    (h : After (e.processInput c input session) log
      (.done (.ok (c', .serviceError stepId failure)))) :
    ∃ events, Walk e w input session (.resuming s c) events (.ended (.failed stepId failure)) ∧
      calls events = log ∧ autoSteps events ≤ e.limits.maxAutoSteps ∧ c' = held c events := by
  obtain ⟨events, f, hwalk, hcalls, hbudget, hresult⟩ :=
    ((after_processInput_iff hlocate).1 h).of_ok
  cases f with
  | failed stepId' failure' =>
    cases hresult
    exact ⟨events, hwalk, hcalls, hbudget, rfl⟩
  | waiting s c => cases hresult
  | refused reason s c => cases hresult
  | completed c => cases hresult
  | broken err => cases hresult

/-- A service error is atomic. Its context is at the step it names. If the turn entered no step, it
is the context the turn began with; else it is the one right after the last transition, and every
finished turn with the answers given up to there makes that transition to the same context. -/
theorem serviceError_atomic {c c' : Context} {log : CallLog H} {stepId : String}
    {failure : CallFailure} (h : After (e.processInput c input session) log
      (.done (.ok (c', .serviceError stepId failure)))) :
    c'.IsAt c.workflowId stepId ∧ ∃ w s events, e.locate c = .ok (w, s) ∧
      Walk e w input session (.resuming s c) events (.ended (.failed stepId failure)) ∧
      calls events = log ∧
      (entrances events = [] ∧ c' = c ∨
        ∃ before s' since, events = before ++ .entered s' c' :: since ∧ entrances since = [] ∧
          s'.id = stepId ∧
          Walk e w input session (.resuming s c) (before ++ [.entered s' c']) (.arrived s' c') ∧
          ∀ events' f, Walk e w input session (.resuming s c) events' (.ended f) →
            calls before <+: calls events' → before ++ [.entered s' c'] <+: events') := by
  obtain ⟨w, s, hlocate⟩ := exists_locate h
  obtain ⟨events, hwalk, hcalls, -, hheld⟩ := failed_of_serviceError hlocate h
  obtain ⟨-, -, -, hcurrent⟩ := locate_eq_ok_iff.1 hlocate
  obtain ⟨id, hid, hat⟩ := hwalk.isAt (k := c) ⟨rfl, rfl, hcurrent⟩ ⟨rfl, hcurrent⟩
  have hstepId : stepId = id := hid
  rw [← hheld, ← hstepId] at hat
  refine ⟨hat, w, s, events, hlocate, hwalk, hcalls, ?_⟩
  -- Without an entrance nothing was held but the context the turn was given.
  by_cases hentrances : entrances events = []
  · left
    rw [held_of_entrances c hentrances] at hheld
    exact ⟨hentrances, hheld⟩
  · right
    obtain ⟨before, s', k, since, hevents, hsince⟩ := exists_last_entered hentrances
    have hk : c' = k := by
      rw [hheld, hevents, held_append, held_entered]
      exact held_of_entrances k hsince
    subst hk
    obtain ⟨st₁, st₂, hbefore, hmove, -⟩ := hwalk.split hevents
    obtain ⟨c₁, id₁, rfl, hstep, hmoved, rfl⟩ := hmove.of_entered
    have harrived := hbefore.snoc hmove
    refine ⟨before, s', since, hevents, hsince, ?_, harrived, ?_⟩
    · have hid := hat.2
      rw [hmoved] at hid
      exact Option.some.inj hid
    · intro events' f hwalk' hprefix
      apply harrived.determined hwalk'
      simpa using hprefix

def enrolment : Workflow where
  id := "enrolment"
  startStepId := "number"
  steps := [
    { id := "number", kind := some .input, next := some (.fixed "verify") },
    { id := "verify", kind := some .service, action := some "verify" }]

def clerk : Engine Unit where
  registry := ⟨[enrolment]⟩
  actions := { shared := [("verify", ())] }

def asking : Context where
  workflowId := some "enrolment"
  currentStepId := some "number"
  history := ["number"]

def verifying : Context :=
  { asking with
    currentStepId := some "verify"
    vars := [("number", .text (Text.trim "12"))] }

def verification (x : CallResult) : Entry (fun _ : Call Unit => CallResult) :=
  ⟨⟨(), ⟨"enrolment", "verify", [], verifying.vars, "12", ⟨"user", none⟩⟩⟩, x⟩

/-- A number is kept although its verification failed. -/
theorem serviceError_atomic_enrolment :
    After (clerk.processInput asking "12" ⟨"user", none⟩) [verification (.error .timeout)]
        (.done (.ok (verifying, .serviceError "verify" .timeout))) ∧
      verifying.IsAt asking.workflowId "verify" ∧
      ∃ w s before s' since, clerk.locate asking = .ok (w, s) ∧ s'.id = "verify" ∧
        calls (before ++ .entered s' verifying :: since) = [verification (.error .timeout)] ∧
        Walk clerk w "12" ⟨"user", none⟩ (.resuming s asking)
          (before ++ [.entered s' verifying]) (.arrived s' verifying) := by
  have hturn : After (clerk.processInput asking "12" ⟨"user", none⟩)
      [verification (.error .timeout)]
      (.done (.ok (verifying, .serviceError "verify" .timeout))) := .cons _ (.nil _)
  obtain ⟨hat, w, s, events, hlocate, -, hcalls, hcases⟩ := serviceError_atomic hturn
  refine ⟨hturn, hat, w, s, ?_⟩
  rcases hcases with ⟨-, hsame⟩ | ⟨before, s', since, rfl, -, hid, hwalk, -⟩
  · exact absurd (congrArg Context.currentStepId hsame) (by decide)
  · exact ⟨before, s', since, hlocate, hid, hcalls, hwalk⟩

end Engine

end Dialogue
