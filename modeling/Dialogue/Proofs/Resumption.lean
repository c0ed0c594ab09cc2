import Dialogue.Proofs.Rollback

namespace Dialogue

open Interaction

variable {H : Type}

namespace StepResult

/-- A result without the notices. -/
def silent : StepResult → StepResult
  | .awaitingInput prompt _ => .awaitingInput prompt []
  | .validationError reason prompt attempt => .validationError reason prompt attempt
  | .serviceError stepId failure => .serviceError stepId failure
  | .completed finalData _ message => .completed finalData [] message

end StepResult

namespace Engine

/-- Whether two turns leave the same context with the same result up to the notices, or fail with
the same error. -/
def SameOutcome (r r' : Except Error (Context × StepResult)) : Prop :=
  r.map (fun p => (p.1, p.2.silent)) = r'.map (fun p => (p.1, p.2.silent))

theorem Finish.sameOutcome (w : Workflow) (shown shown' : List Prompt) (snapshot : Context)
    (f : Finish) : SameOutcome (f.result w shown snapshot) (f.result w shown' snapshot) := by
  cases f with
  | waiting s c => rfl
  | refused reason s c => rfl
  | failed stepId failure => rfl
  | completed c => rfl
  | broken err => rfl

variable {e : Engine H} {w : Workflow} {input : String} {session : SessionRef}

section Resuming

variable {s s' : Step} {c c' k : Context} {budget : Nat} {shown : List Prompt}
  {events events' : List (Event H)} {st st' : Stage} {log : CallLog H}
  {result : Except Error (Context × StepResult)} {q : Call H} {x : CallResult} {stepId : String}
  {failure : CallFailure}

/-- An action fails at the step the turn began on, or at an automatic step it entered. -/
theorem Move.of_failed
    (h : Move e w input session st [.acted q x] (.ended (.failed stepId failure))) :
    (∃ s c, st = .resuming s c) ∨
      ∃ s c, st = .arrived s c ∧ s.isAutomatic = true := by
  cases h with
  | accepted hkind hinteractive hcheck hacts => exact .inl ⟨_, _, rfl⟩
  | resumed hkind hinteractive hacts => exact .inl ⟨_, _, rfl⟩
  | runs hauto hkind hacts => exact .inr ⟨_, _, rfl, hauto⟩

theorem Acts.ne_failed {action : Option String} (h : Acts e w input session s c action [] st) :
    st ≠ .ended (.failed stepId failure) := by
  cases h with
  | leaves =>
    cases w.destination s c with
    | ok d => simp [leaving]
    | error err => simp [leaving]
  | unknown h => simp

theorem Move.ne_failed (h : Move e w input session st [] st') :
    st' ≠ .ended (.failed stepId failure) := by
  cases h with
  | kindless hkind => simp
  | refused hkind hinteractive hcheck => simp
  | accepted hkind hinteractive hcheck hacts => exact hacts.ne_failed
  | resumed hkind hinteractive hacts => exact hacts.ne_failed
  | missing hstep => simp
  | waits hauto => simp
  | stumbles hauto hkind => simp
  | runs hauto hkind hacts => exact hacts.ne_failed
  | completed hhook => simp
  | unhooked hhook h => simp

/-- The last thing to happen in a turn with a failed call is this call. -/
theorem Walk.before_failed {event : Event H}
    (h : Walk e w input session st (events ++ [event]) (.ended (.failed stepId failure))) :
    ∃ st', Walk e w input session st events st' ∧
      Move e w input session st' [event] (.ended (.failed stepId failure)) := by
  rcases h.last with ⟨hnil, -⟩ | ⟨events₁, events₂, st', hevents, hwalk, hmove⟩
  · simp at hnil
  · have hlength := hmove.length_le
    cases events₂ with
    | nil => exact absurd rfl hmove.ne_failed
    | cons last more =>
      obtain rfl : more = [] := List.length_eq_zero_iff.1 (by simpa using hlength)
      obtain ⟨rfl, hlast⟩ := List.append_inj' hevents rfl
      cases hlast
      exact ⟨st', hwalk, hmove⟩

theorem not_interactive {kind : StepKind} (hauto : s.isAutomatic = true)
    (hkind : w.kindOf s = .ok kind) : kind.isInteractive = false := by
  rw [← Workflow.isInteractive_of_kindOf hkind, Step.isInteractive_of_isAutomatic hauto]

/-- An automatic step does the same whether a turn enters it or begins on it. -/
theorem arrived_of_resuming (hauto : s.isAutomatic = true)
    (h : Walk e w input session (.resuming s c) events st) (hst : st ≠ .resuming s c) :
    Walk e w input session (.arrived s c) events st := by
  cases h with
  | nil => exact absurd rfl hst
  | cons hmove hwalk =>
    refine .cons ?_ hwalk
    cases hmove with
    | kindless hkind => exact .stumbles hauto hkind
    | refused hkind hinteractive hcheck => simp [not_interactive hauto hkind] at hinteractive
    | accepted hkind hinteractive hcheck hacts => simp [not_interactive hauto hkind] at hinteractive
    | resumed hkind hinteractive hacts => exact .runs hauto hkind hacts

/-- With less of the budget a turn has the same outcome, or it is stuck on the way. -/
theorem same_or_stuck {budget' : Nat} {shown' : List Prompt} {snapshot : Context}
    (hwalk : Walk e w input session st events st')
    (hconcludes : Concludes e w budget shown snapshot events st' result) (hle : budget' ≤ budget) :
    (∃ result', After (e.rest w input session budget' shown' snapshot st) (calls events)
        (.done result') ∧ SameOutcome result' result) ∨
      ∃ l₁ l₂ stepId, calls events = l₁ ++ l₂ ∧
        After (e.rest w input session budget' shown' snapshot st) l₁
          (.done (.error (.stuck w.id stepId e.limits.maxAutoSteps))) := by
  by_cases hbudget : autoSteps events ≤ budget'
  · left
    cases hconcludes with
    | ended f _ =>
      refine ⟨_, after_rest_iff.2 ⟨events, _, hwalk, rfl, .ended f hbudget⟩, ?_⟩
      exact f.sameOutcome w _ _ _
    | stuck hstep hauto hfull =>
      have hsame : autoSteps events = budget' := by omega
      exact ⟨_, after_rest_iff.2 ⟨events, _, hwalk, rfl, .stuck hstep hauto hsame⟩, rfl⟩
  · right
    obtain ⟨before, since, stepId, rfl, -, hstuck⟩ :=
      hwalk.exceeds (Nat.lt_of_not_le hbudget) shown' snapshot
    exact ⟨calls before, calls since, stepId, calls_append _ _, hstuck⟩

/-- A turn leaves the step it entered last to be taken up. -/
theorem locate_arrived (hlocate : e.locate c = .ok (w, s))
    (hwalk : Walk e w input session (.resuming s c) events (.arrived s' k)) :
    held c events = k ∧ e.locate k = .ok (w, s') := by
  obtain ⟨hget, hid, hstep, hcurrent⟩ := locate_eq_ok_iff.1 hlocate
  rcases hwalk.last with ⟨-, hst⟩ | ⟨events₁, events₂, st₁, rfl, hwalk₁, hmove⟩
  · cases hst
  · obtain ⟨c₀, id, rfl, hstep', rfl, rfl⟩ := hmove.to_arrived
    obtain ⟨id', hat, -⟩ := hwalk.isAt (k := c) ⟨rfl, hid, hcurrent⟩ ⟨hid, hcurrent⟩
    refine ⟨by rw [held_append, held_entered, held_nil], locate_eq_ok_iff.2 ?_⟩
    exact ⟨hget, hat.2.1, Workflow.step?_self hstep', rfl⟩

end Resuming

/-- Retrying a failed turn loses no progress. If a turn came to a failed action of a step, then a
turn on the context it left with the same input ends as the failed turn would have with its earlier
calls answered as they were and the failed one and all later ones answered as in the retry, unless
that turn is stuck. -/
theorem retry_resumes {s : Step} {c c' : Context} {events : List (Event H)} {q : Call H}
    {x : CallResult} {log : CallLog H} {stepId : String} {failure : CallFailure}
    {result' : Except Error (Context × StepResult)} (hlocate : e.locate c = .ok (w, s))
    (hwalk : Walk e w input session (.resuming s c) (events ++ [.acted q x])
      (.ended (.failed stepId failure)))
    (h : After (e.processInput c input session) (calls (events ++ [.acted q x]))
      (.done (.ok (c', .serviceError stepId failure))))
    (hretry : After (e.processInput c' input session) log (.done result')) :
    (∃ result, After (e.processInput c input session) (calls events ++ log) (.done result) ∧
        SameOutcome result result') ∨
      ∃ l₁ l₂ stuckId, log = l₁ ++ l₂ ∧
        After (e.processInput c input session) (calls events ++ l₁)
          (.done (.error (.stuck w.id stuckId e.limits.maxAutoSteps))) := by
  obtain ⟨events', hwalk', hcalls, hbudget, hheld⟩ := failed_of_serviceError hlocate h
  obtain rfl := hwalk'.unique hwalk hcalls
  obtain ⟨st, hbefore, hmove⟩ := hwalk.before_failed
  have hc' : c' = held c events := by rw [hheld, held_append, held_of_entrances _ rfl]
  obtain ⟨s₀, c₀, rfl⟩ | ⟨s', k, rfl, hauto⟩ := hmove.of_failed
  · -- The action of the step the turn began on failed, so the retry is the same turn again.
    rcases hbefore.last with ⟨rfl, -⟩ | ⟨_, _, _, -, -, hto⟩
    · left
      obtain rfl : c' = c := hc'
      exact ⟨result', hretry, rfl⟩
    · exact absurd hto Move.not_to_resuming
  · obtain ⟨hk, hlocate'⟩ := locate_arrived hlocate hbefore
    obtain rfl : c' = k := hc'.trans hk
    obtain ⟨events', st', hagain, rfl, hconcludes⟩ := (after_processInput_iff hlocate').1 hretry
    have hst' : st' ≠ .resuming s' c' := by
      cases hconcludes with
      | ended f hbudget' => simp
      | stuck hstep hauto' hbudget' => simp
    -- The retry begins on the step where the failed turn entered it.
    have hthere := arrived_of_resuming hauto hagain hst'
    -- The failed turn came here with some of its budget used up.
    rw [autoSteps_append] at hbudget
    have hhere : After (e.rest w input session e.limits.maxAutoSteps [] c (.resuming s c))
        (calls events) _ := hbefore.after (Nat.le_trans (Nat.le_add_right _ _) hbudget)
    rw [hk] at hhere
    rw [processInput_eq_rest hlocate]
    rcases same_or_stuck hthere hconcludes (Nat.sub_le _ _) with
      ⟨result, hresult, hsame⟩ | ⟨l₁, l₂, stuckId, hcalls, hstuck⟩
    · exact .inl ⟨result, hhere.append hresult, hsame⟩
    · exact .inr ⟨l₁, l₂, stuckId, hcalls, hhere.append hstuck⟩

/-- A verification that timed out succeeds in the retry. -/
theorem retry_resumes_enrolment :
    After (clerk.processInput asking "12" ⟨"user", none⟩) [verification (.error .timeout)]
        (.done (.ok (verifying, .serviceError "verify" .timeout))) ∧
      After (clerk.processInput verifying "12" ⟨"user", none⟩)
        [verification (.ok ⟨true, none, none⟩)]
        (.done (.ok ({}, .completed verifying.vars [] none))) ∧
      ∃ result, After (clerk.processInput asking "12" ⟨"user", none⟩)
          [verification (.ok ⟨true, none, none⟩)] (.done result) ∧
        SameOutcome result (.ok ({}, .completed verifying.vars [] none)) := by
  have hfailed : After (clerk.processInput asking "12" ⟨"user", none⟩)
      [verification (.error .timeout)]
      (.done (.ok (verifying, .serviceError "verify" .timeout))) := .cons _ (.nil _)
  have hretry : After (clerk.processInput verifying "12" ⟨"user", none⟩)
      [verification (.ok ⟨true, none, none⟩)]
      (.done (.ok ({}, .completed verifying.vars [] none))) := .cons _ (.nil _)
  have hlocate : clerk.locate asking = .ok (enrolment, enrolment.steps[0]) := rfl
  have hanswered : Move clerk enrolment "12" ⟨"user", none⟩ (.resuming enrolment.steps[0] asking) []
      (.heading { verifying with currentStepId := some "number" } (.step "verify")) :=
    .accepted rfl rfl rfl .leaves
  have hentered : Move clerk enrolment "12" ⟨"user", none⟩
      (.heading { verifying with currentStepId := some "number" } (.step "verify"))
      [.entered enrolment.steps[1] verifying] (.arrived enrolment.steps[1] verifying) :=
    .entered rfl
  have hacted : Move clerk enrolment "12" ⟨"user", none⟩ (.arrived enrolment.steps[1] verifying)
      [.acted (verification (.error .timeout)).question (.error .timeout)]
      (.ended (.failed "verify" .timeout)) :=
    .runs rfl rfl (.asks rfl _)
  have hwalk := (Walk.nil _).snoc hanswered |>.snoc hentered |>.snoc hacted
  refine ⟨hfailed, hretry, ?_⟩
  rcases retry_resumes hlocate hwalk hfailed hretry with h | ⟨l₁, l₂, stuckId, hlog, hstuck⟩
  · exact h
  · have hdirect : After (clerk.processInput asking "12" ⟨"user", none⟩) (l₁ ++ l₂)
        (.done (.ok ({}, .completed verifying.vars [] none))) := hlog ▸ .cons _ (.nil _)
    cases (hstuck.complete hdirect).2

end Engine

end Dialogue
