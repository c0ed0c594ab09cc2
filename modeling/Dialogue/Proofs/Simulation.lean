import Dialogue.Proofs.Walk

namespace Dialogue

open Interaction

variable {H : Type}

namespace Engine

variable (e : Engine H) (w : Workflow) (input : String) (session : SessionRef)

/-- What a step does in a turn, with an action to call or without one. -/
def act (s : Step) (action : Option String) (c snapshot : Context)
    (go : Context → Destination → Turn H) : Turn H :=
  match action with
  | some action => e.perform w input session s action c snapshot go
  | none =>
    match w.destination s c with
    | .ok d => go c d
    | .error err => .fail err

/-- What is left of a turn at a stage, when `budget` more automatic steps may be entered. -/
def rest (budget : Nat) (shown : List Prompt) (snapshot : Context) : Stage → Turn H
  | .resuming s c =>
    match w.kindOf s with
    | .error err => .fail err
    | .ok kind =>
      if kind.isInteractive then
        match s.check e.patterns kind input with
        | .error reason =>
          .done (Finish.result w shown snapshot
            (.refused reason s { c with retryCount := c.retryCount + 1 }))
        | .ok value =>
          e.act w input session s s.action (e.accepted s c value) snapshot
            (e.follow w input session budget shown snapshot)
      else
        e.act w input session s s.ownAction c snapshot
          (e.follow w input session budget shown snapshot)
  | .arrived s c =>
    if s.isAutomatic then
      match w.kindOf s with
      | .error err => .fail err
      | .ok _ =>
        e.act w input session s s.ownAction c snapshot
          (e.follow w input session budget shown snapshot)
    else .done (Finish.result w shown snapshot (.waiting s (e.awaiting s c)))
  | .heading c d => e.follow w input session budget shown snapshot c d
  | .ended f => .done (f.result w shown snapshot)

variable {e w input session}

theorem runStep_eq_act (s : Step) (c snapshot : Context) (go : Context → Destination → Turn H) :
    e.runStep w input session s c snapshot go =
      e.act w input session s s.ownAction c snapshot go := by
  simp only [runStep]
  split
  · rename_i action haction hkind
    simp [Step.ownAction, hkind, haction, act]
  · rename_i hnot
    have hnone : s.ownAction = none := by
      simp only [Step.ownAction]
      split
      · rename_i hkind
        cases haction : s.action with
        | none => rfl
        | some action => exact absurd hkind (hnot action haction)
      · rfl
    rw [hnone]
    rfl

/-- A turn with the user's input begins on the step the context is at. -/
theorem resume_eq_rest (s : Step) (c : Context) :
    e.resume w s c input session =
      e.rest w input session e.limits.maxAutoSteps [] c (.resuming s c) := by
  simp only [resume, rest]
  cases w.kindOf s with
  | error err => rfl
  | ok kind =>
    dsimp only
    by_cases hinteractive : kind.isInteractive = true
    · rw [if_pos hinteractive, if_pos hinteractive, answer]
      cases s.check e.patterns kind input with
      | error reason => rfl
      | ok value =>
        cases s.action with
        | none => rfl
        | some action => rfl
    · rw [if_neg hinteractive, if_neg hinteractive]
      exact runStep_eq_act s c c _

theorem begin_eq_rest (now : Instant) :
    e.begin w now session =
      e.rest w "" session e.limits.maxAutoSteps [] (Context.start w.id w.startStepId now)
        (.heading (Context.start w.id w.startStepId now) (.step w.startStepId)) := rfl

section Entering

variable {budget : Nat} {shown : List Prompt} {snapshot c : Context} {id : String} {s : Step}
  (hstep : w.step? id = some s)
include hstep

theorem follow_stuck (hauto : s.isAutomatic = true) :
    e.follow w input session 0 shown snapshot c (.step id) =
      .fail (.stuck w.id s.id e.limits.maxAutoSteps) := by
  simp [follow, hstep, hauto]

theorem follow_automatic (hauto : s.isAutomatic = true) :
    e.follow w input session (budget + 1) shown snapshot c (.step id) =
      e.rest w input session budget
        (shown ++ notices w ([.entered s (c.moveTo s.id)] : List (Event H))) (c.moveTo s.id)
        (.arrived s (c.moveTo s.id)) := by
  simp only [follow, hstep, hauto, if_true, rest, notices, List.filterMap_cons, Event.notice?,
    Workflow.kindOf]
  cases hkind : s.kind with
  | none => rfl
  | some kind =>
    cases kind with
    | message => simp [runStep_eq_act]
    | input => simp [runStep_eq_act]
    | choice => simp [runStep_eq_act]
    | service => simp [runStep_eq_act]

theorem follow_waiting (hauto : s.isAutomatic = false) :
    e.follow w input session budget shown snapshot c (.step id) =
      e.rest w input session budget
        (shown ++ notices w ([.entered s (c.moveTo s.id)] : List (Event H))) (c.moveTo s.id)
        (.arrived s (c.moveTo s.id)) := by
  cases budget with
  | zero =>
    simp [follow, hstep, hauto, rest, notices, Event.notice?, Finish.result, awaiting, Turn.stop]
  | succ budget =>
    simp [follow, hstep, hauto, rest, notices, Event.notice?, Finish.result, awaiting, Turn.stop]

end Entering

section Simulation

variable {budget : Nat} {shown : List Prompt} {snapshot c : Context} {s : Step}
  {action : Option String} {events : List (Event H)} {st st' : Stage} {log : CallLog H}
  {result : Except Error (Context × StepResult)}

theorem follow_finish :
    e.follow w input session budget shown snapshot c .finish =
      match w.onComplete with
      | none => e.rest w input session budget shown snapshot (.ended (.completed c))
      | some hook =>
        e.call w c (c.currentStepId.getD endTarget) hook [] input session fun x =>
          e.rest w input session budget shown snapshot (.ended (hooked c x)) := by
  have hcomplete : e.follow w input session budget shown snapshot c .finish =
      e.complete w input session c snapshot shown := by
    cases budget with
    | zero => rfl
    | succ budget => rfl
  rw [hcomplete, complete]
  cases w.onComplete with
  | none => rfl
  | some hook =>
    apply congrArg (e.call w c _ hook [] input session)
    funext x
    cases x with
    | error failure => rfl
    | ok report =>
      by_cases hsuccess : report.success = true
      · simp [hooked, hsuccess, rest, Finish.result, Turn.stop]
      · simp [hooked, hsuccess, rest, Finish.result, Turn.stop]

theorem follow_missing {id : String} (hstep : w.step? id = none) :
    e.follow w input session budget shown snapshot c (.step id) =
      .fail (.stepNotFound w.id id) := by
  cases budget with
  | zero => simp [follow, hstep]
  | succ budget => simp [follow, hstep]

theorem follow_eq_rest {d : Destination} :
    e.follow w input session budget shown snapshot c d =
      e.rest w input session budget shown snapshot (.heading c d) := rfl

theorem rest_leaving (destination : Except Error Destination) :
    (match destination with
      | .ok d => e.follow w input session budget shown snapshot c d
      | .error err => Turn.fail err) =
      e.rest w input session budget shown snapshot (leaving c destination) := by
  cases destination with
  | ok d => rfl
  | error err => rfl

theorem rest_settled (outcome : Outcome) :
    (match outcome with
      | .advance next d => e.follow w input session budget shown snapshot next d
      | .refuse failure => Turn.stop snapshot (.serviceError s.id failure)
      | .broken err => Turn.fail err) =
      e.rest w input session budget shown snapshot (settled s outcome) := by
  cases outcome with
  | advance next d => rfl
  | refuse failure => rfl
  | broken err => rfl

/-- What a step does leaves of the turn what the stage it leads to says. -/
theorem Acts.after (h : Acts e w input session s c action events st) :
    After (e.act w input session s action c snapshot
        (e.follow w input session budget shown snapshot)) (calls events)
      (e.rest w input session budget shown snapshot st) := by
  cases h with
  | leaves =>
    rw [act, rest_leaving]
    exact .nil _
  | unknown h =>
    simp only [act, perform, call, h]
    exact .nil _
  | asks h x =>
    simp only [act, perform, call, h]
    rw [← rest_settled]
    exact after_cons_iff.2 ⟨_, rfl, .nil _⟩

theorem exists_acts (h : After (e.act w input session s action c snapshot
      (e.follow w input session budget shown snapshot)) log (.done result)) :
    ∃ events st log', Acts e w input session s c action events st ∧ log = calls events ++ log' ∧
      After (e.rest w input session budget shown snapshot st) log' (.done result) := by
  cases action with
  | none =>
    rw [act, rest_leaving] at h
    exact ⟨[], _, log, .leaves, rfl, h⟩
  | some action =>
    simp only [act, perform, call] at h
    cases hhandler : e.actions.get? w.id action with
    | none =>
      rw [hhandler] at h
      exact ⟨[], _, log, .unknown hhandler, rfl, h⟩
    | some handler =>
      rw [hhandler] at h
      obtain ⟨x, log', rfl, hrest⟩ := after_ask_done_iff.1 h
      refine ⟨_, _, log', .asks hhandler x, rfl, ?_⟩
      rw [← rest_settled]
      exact hrest

theorem after_rest_of_entrances {p : Turn H} (h : entrances events = [])
    (hafter : After p (calls events) (e.rest w input session budget shown snapshot st)) :
    After p (calls events) (e.rest w input session (budget - autoSteps events)
      (shown ++ notices w events) (held snapshot events) st) := by
  rwa [autoSteps_of_entrances h, notices_of_entrances w h, held_of_entrances snapshot h,
    Nat.sub_zero, List.append_nil]

/-- A move leaves of the turn what the stage it leads to says, with less of the budget, more notices
and another context to go back to if it enters a step. -/
theorem Move.after (h : Move e w input session st events st')
    (hbudget : autoSteps events ≤ budget) :
    After (e.rest w input session budget shown snapshot st) (calls events)
      (e.rest w input session (budget - autoSteps events) (shown ++ notices w events)
        (held snapshot events) st') := by
  -- Only `entered` uses up budget, shows a notice or holds another context.
  cases h with
  | kindless hkind =>
    apply after_rest_of_entrances rfl
    simp only [rest, hkind]
    exact .nil _
  | refused hkind hinteractive hcheck =>
    apply after_rest_of_entrances rfl
    simp only [rest, hkind, hinteractive, if_true, hcheck]
    exact .nil _
  | accepted hkind hinteractive hcheck hacts =>
    apply after_rest_of_entrances hacts.entrances
    simp only [rest, hkind, hinteractive, if_true, hcheck]
    exact hacts.after
  | resumed hkind hinteractive hacts =>
    apply after_rest_of_entrances hacts.entrances
    simp only [rest, hkind, hinteractive]
    exact hacts.after
  | missing hstep =>
    apply after_rest_of_entrances rfl
    rw [← follow_eq_rest, follow_missing hstep]
    exact .nil _
  | @entered c id s hstep =>
    by_cases hauto : s.isAutomatic = true
    · rw [autoSteps_entered, if_pos hauto] at hbudget ⊢
      obtain ⟨budget, rfl⟩ : ∃ b, budget = b + 1 := ⟨budget - 1, by omega⟩
      rw [← follow_eq_rest, follow_automatic hstep hauto]
      exact .nil _
    · rw [autoSteps_entered, if_neg hauto, ← follow_eq_rest,
        follow_waiting hstep (by simpa using hauto)]
      exact .nil _
  | waits hauto =>
    apply after_rest_of_entrances rfl
    simp only [rest, hauto]
    exact .nil _
  | stumbles hauto hkind =>
    apply after_rest_of_entrances rfl
    simp only [rest, hauto, hkind, if_true]
    exact .nil _
  | runs hauto hkind hacts =>
    apply after_rest_of_entrances hacts.entrances
    simp only [rest, hauto, hkind, if_true]
    exact hacts.after
  | completed hhook =>
    apply after_rest_of_entrances rfl
    rw [← follow_eq_rest, follow_finish, hhook]
    exact .nil _
  | unhooked hhook h =>
    apply after_rest_of_entrances rfl
    rw [← follow_eq_rest, follow_finish, hhook]
    simp only [call, h]
    exact .nil _
  | closed hhook h x =>
    apply after_rest_of_entrances rfl
    rw [← follow_eq_rest, follow_finish, hhook]
    simp only [call, h]
    exact after_cons_iff.2 ⟨_, rfl, .nil _⟩

/-- A walk leaves of the turn what the stage it leads to says. -/
theorem Walk.after (h : Walk e w input session st events st')
    (hbudget : autoSteps events ≤ budget) :
    After (e.rest w input session budget shown snapshot st) (calls events)
      (e.rest w input session (budget - autoSteps events) (shown ++ notices w events)
        (held snapshot events) st') := by
  induction h generalizing budget shown snapshot with
  | nil st => simpa using After.nil _
  | @cons st st₁ st' events events' hmove hwalk ih =>
    rw [autoSteps_append] at hbudget
    have hfirst : After (e.rest w input session budget shown snapshot st) (calls events)
        (e.rest w input session (budget - autoSteps events) (shown ++ notices w events)
          (held snapshot events) st₁) := hmove.after (by omega)
    have hthen : After (e.rest w input session (budget - autoSteps events)
          (shown ++ notices w events) (held snapshot events) st₁) (calls events') _ :=
      ih (by omega)
    simpa [List.append_assoc, Nat.sub_sub] using hfirst.append hthen

def Stage.rank (budget : Nat) : Stage → Nat
  | .ended _ => 0
  | .heading _ _ => 3 * budget + 2
  | .arrived s _ => if s.isAutomatic then 3 * budget + 3 else 1
  | .resuming _ _ => 3 * budget + 3

theorem Acts.rank_le (h : Acts e w input session s c action events st) :
    st.rank budget ≤ 3 * budget + 2 := by
  obtain ⟨vars, d, rfl⟩ | ⟨failure, rfl⟩ | ⟨err, rfl, -⟩ := h.leads
  · exact Nat.le_refl _
  · exact Nat.zero_le _
  · exact Nat.zero_le _

/-- Every move brings the end nearer: only entering an automatic step leads to more moves, and uses
up some of the budget. -/
theorem Move.rank_lt (h : Move e w input session st events st')
    (hbudget : autoSteps events ≤ budget) :
    st'.rank (budget - autoSteps events) < st.rank budget := by
  cases h with
  | kindless hkind => simp [Stage.rank]
  | refused hkind hinteractive hcheck => simp [Stage.rank]
  | accepted hkind hinteractive hcheck hacts =>
    rw [autoSteps_of_entrances hacts.entrances]
    exact Nat.lt_of_le_of_lt hacts.rank_le (Nat.lt_succ_self _)
  | resumed hkind hinteractive hacts =>
    rw [autoSteps_of_entrances hacts.entrances]
    exact Nat.lt_of_le_of_lt hacts.rank_le (Nat.lt_succ_self _)
  | missing hstep => simp [Stage.rank]
  | @entered c id s hstep =>
    by_cases hauto : s.isAutomatic = true
    · simp only [autoSteps_entered, hauto, if_true, Stage.rank] at hbudget ⊢
      omega
    · simp only [Stage.rank, hauto]
      simp
  | waits hauto => simp [Stage.rank, hauto]
  | stumbles hauto hkind => simp [Stage.rank, hauto]
  | runs hauto hkind hacts =>
    rw [autoSteps_of_entrances hacts.entrances]
    refine Nat.lt_of_le_of_lt hacts.rank_le ?_
    simp [Stage.rank, hauto]
  | completed hhook => simp [Stage.rank]
  | unhooked hhook h => simp [Stage.rank]
  | closed hhook h x => simp [Stage.rank]

variable (e w) in
/-- How a turn concludes that went along some events to a stage: the way the stage says, or stuck
before one automatic step too many. -/
inductive Concludes (budget : Nat) (shown : List Prompt) (snapshot : Context)
    (events : List (Event H)) : Stage → Except Error (Context × StepResult) → Prop
  | ended (f : Finish) (hbudget : autoSteps events ≤ budget) :
      Concludes budget shown snapshot events (.ended f)
        (f.result w (shown ++ notices w events) (held snapshot events))
  | stuck {c : Context} {id : String} {s : Step} (hstep : w.step? id = some s)
      (hauto : s.isAutomatic = true) (hbudget : autoSteps events = budget) :
      Concludes budget shown snapshot events (.heading c (.step id))
        (.error (.stuck w.id s.id e.limits.maxAutoSteps))

variable (e w input session) in
/-- Whether a walk with some calls ends in a result. -/
def Ends (budget : Nat) (shown : List Prompt) (snapshot : Context) (st : Stage) (log : CallLog H)
    (result : Except Error (Context × StepResult)) : Prop :=
  ∃ events st', Walk e w input session st events st' ∧ calls events = log ∧
    Concludes e w budget shown snapshot events st' result

theorem Concludes.mono {events' : List (Event H)}
    (h : Concludes e w (budget - autoSteps events) (shown ++ notices w events)
      (held snapshot events) events' st result) (hbudget : autoSteps events ≤ budget) :
    Concludes e w budget shown snapshot (events ++ events') st result := by
  cases h with
  | ended f h =>
    rw [List.append_assoc, ← notices_append, ← held_append]
    apply Concludes.ended
    rw [autoSteps_append]
    omega
  | stuck hstep hauto h =>
    apply Concludes.stuck hstep hauto
    rw [autoSteps_append]
    omega

theorem Ends.of_move (h : Move e w input session st events st')
    (hbudget : autoSteps events ≤ budget)
    (hends : Ends e w input session (budget - autoSteps events) (shown ++ notices w events)
      (held snapshot events) st' log result) :
    Ends e w input session budget shown snapshot st (calls events ++ log) result := by
  obtain ⟨events', st'', hwalk, rfl, hconcludes⟩ := hends
  exact ⟨events ++ events', st'', .cons h hwalk, calls_append _ _, hconcludes.mono hbudget⟩

variable (e w input session) in
/-- Whether a finished turn made a move first. -/
def Proceeds (budget : Nat) (shown : List Prompt) (snapshot : Context) (st : Stage)
    (log : CallLog H) (result : Except Error (Context × StepResult)) : Prop :=
  ∃ events st' log', Move e w input session st events st' ∧ autoSteps events ≤ budget ∧
    log = calls events ++ log' ∧
    After (e.rest w input session (budget - autoSteps events) (shown ++ notices w events)
      (held snapshot events) st') log' (.done result)

/-- A move that enters no step changes neither the budget nor the notices nor the snapshot. -/
theorem Proceeds.of_stay (h : Move e w input session st events st')
    (hentrances : entrances events = [])
    (hafter : After (e.rest w input session budget shown snapshot st') log (.done result)) :
    Proceeds e w input session budget shown snapshot st (calls events ++ log) result := by
  refine ⟨events, st', log, h, ?_, rfl, ?_⟩
  · rw [autoSteps_of_entrances hentrances]
    exact Nat.zero_le _
  · rwa [autoSteps_of_entrances hentrances, notices_of_entrances w hentrances,
      held_of_entrances snapshot hentrances, Nat.sub_zero, List.append_nil]

theorem resuming_proceeds
    (h : After (e.rest w input session budget shown snapshot (.resuming s c)) log (.done result)) :
    Proceeds e w input session budget shown snapshot (.resuming s c) log result := by
  simp only [rest] at h
  cases hkind : w.kindOf s with
  | error err =>
    rw [hkind] at h
    exact .of_stay (.kindless hkind) rfl h
  | ok kind =>
    simp only [hkind] at h
    by_cases hinteractive : kind.isInteractive = true
    · rw [if_pos hinteractive] at h
      cases hcheck : s.check e.patterns kind input with
      | error reason =>
        rw [hcheck] at h
        exact .of_stay (.refused hkind hinteractive hcheck) rfl h
      | ok value =>
        rw [hcheck] at h
        obtain ⟨events, st', log', hacts, rfl, hrest⟩ := exists_acts h
        exact .of_stay (.accepted hkind hinteractive hcheck hacts) hacts.entrances hrest
    · rw [if_neg hinteractive] at h
      obtain ⟨events, st', log', hacts, rfl, hrest⟩ := exists_acts h
      exact .of_stay (.resumed hkind (by simpa using hinteractive) hacts) hacts.entrances hrest

theorem arrived_proceeds
    (h : After (e.rest w input session budget shown snapshot (.arrived s c)) log (.done result)) :
    Proceeds e w input session budget shown snapshot (.arrived s c) log result := by
  simp only [rest] at h
  by_cases hauto : s.isAutomatic = true
  · rw [if_pos hauto] at h
    cases hkind : w.kindOf s with
    | error err =>
      rw [hkind] at h
      exact .of_stay (.stumbles hauto hkind) rfl h
    | ok kind =>
      rw [hkind] at h
      obtain ⟨events, st', log', hacts, rfl, hrest⟩ := exists_acts h
      exact .of_stay (.runs hauto hkind hacts) hacts.entrances hrest
  · rw [if_neg hauto] at h
    exact .of_stay (.waits (by simpa using hauto)) rfl h

theorem finish_proceeds
    (h : After (e.rest w input session budget shown snapshot (.heading c .finish)) log
      (.done result)) :
    Proceeds e w input session budget shown snapshot (.heading c .finish) log result := by
  rw [← follow_eq_rest, follow_finish] at h
  cases hhook : w.onComplete with
  | none =>
    rw [hhook] at h
    exact .of_stay (.completed hhook) rfl h
  | some hook =>
    simp only [hhook, call] at h
    cases hhandler : e.actions.get? w.id hook with
    | none =>
      rw [hhandler] at h
      exact .of_stay (.unhooked hhook hhandler) rfl h
    | some handler =>
      rw [hhandler] at h
      obtain ⟨x, log', rfl, hrest⟩ := after_ask_done_iff.1 h
      exact .of_stay (.closed hhook hhandler x) rfl hrest

theorem step_proceeds {id : String} (hstep : w.step? id = some s)
    (h : After (e.rest w input session budget shown snapshot (.heading c (.step id))) log
      (.done result)) :
    Ends e w input session budget shown snapshot (.heading c (.step id)) log result ∨
      Proceeds e w input session budget shown snapshot (.heading c (.step id)) log result := by
  rw [← follow_eq_rest] at h
  by_cases hauto : s.isAutomatic = true
  · cases budget with
    | zero =>
      left
      rw [follow_stuck hstep hauto] at h
      obtain ⟨rfl, hresult⟩ := after_done_iff.1 h
      cases hresult
      exact ⟨[], _, .nil _, rfl, .stuck hstep hauto rfl⟩
    | succ budget =>
      right
      rw [follow_automatic hstep hauto] at h
      refine ⟨_, _, log, .entered hstep, ?_, rfl, ?_⟩
      · simp [hauto]
      · simpa [hauto] using h
  · right
    rw [follow_waiting hstep (by simpa using hauto)] at h
    refine ⟨_, _, log, .entered hstep, ?_, rfl, ?_⟩
    · simp [hauto]
    · simpa [hauto] using h

/-- A finished turn is at its end, it is stuck, or it makes a move. -/
theorem ends_or_proceeds
    (h : After (e.rest w input session budget shown snapshot st) log (.done result)) :
    Ends e w input session budget shown snapshot st log result ∨
      Proceeds e w input session budget shown snapshot st log result := by
  cases st with
  | ended f =>
    left
    obtain ⟨rfl, hresult⟩ := after_done_iff.1 h
    cases hresult
    have hended : Concludes e w budget shown snapshot [] (.ended f)
        (f.result w (shown ++ notices w ([] : List (Event H))) (held snapshot [])) :=
      .ended f (Nat.zero_le budget)
    rw [notices_nil, List.append_nil] at hended
    exact ⟨[], .ended f, .nil _, rfl, hended⟩
  | resuming s c => exact .inr (resuming_proceeds h)
  | arrived s c => exact .inr (arrived_proceeds h)
  | heading c d =>
    cases d with
    | finish => exact .inr (finish_proceeds h)
    | step id =>
      cases hstep : w.step? id with
      | none =>
        rw [← follow_eq_rest, follow_missing hstep] at h
        exact .inr (.of_stay (.missing hstep) rfl h)
      | some s => exact step_proceeds hstep h

/-- A finished turn went along a walk, by induction on the moves to come. -/
theorem ends_of_after
    (h : After (e.rest w input session budget shown snapshot st) log (.done result)) :
    Ends e w input session budget shown snapshot st log result := by
  induction hrank : st.rank budget using Nat.strongRecOn generalizing budget shown snapshot st log
    with
  | ind rank ih =>
    rcases ends_or_proceeds h with hends | ⟨events, st', log', hmove, hbudget, rfl, hafter⟩
    · exact hends
    · apply Ends.of_move hmove hbudget
      exact ih _ (hrank ▸ hmove.rank_lt hbudget) hafter rfl

theorem after_rest_iff :
    After (e.rest w input session budget shown snapshot st) log (.done result) ↔
      Ends e w input session budget shown snapshot st log result := by
  constructor
  · exact ends_of_after
  · rintro ⟨events, st', hwalk, rfl, hconcludes⟩
    cases hconcludes with
    | ended f hbudget => exact hwalk.after hbudget
    | @stuck c id s hstep hauto hbudget =>
      have h : After (e.rest w input session budget shown snapshot st) (calls events) _ :=
        hwalk.after (Nat.le_of_eq hbudget)
      rwa [hbudget, Nat.sub_self, ← follow_eq_rest, follow_stuck hstep hauto] at h

/-- A turn that ends without an error has walked to a finish within its budget. -/
theorem Ends.of_ok {r : Context × StepResult}
    (h : Ends e w input session budget shown snapshot st log (.ok r)) :
    ∃ events f, Walk e w input session st events (.ended f) ∧ calls events = log ∧
      autoSteps events ≤ budget ∧
      f.result w (shown ++ notices w events) (held snapshot events) = .ok r := by
  obtain ⟨events, st', hwalk, hcalls, hconcludes⟩ := h
  generalize hresult : Except.ok r = result at hconcludes
  cases hconcludes with
  | ended f hbudget => exact ⟨events, f, hwalk, hcalls, hbudget, rfl⟩
  | stuck hstep hauto hbudget => cases hresult

/-- A walk over too many automatic steps leaves the turn stuck before one of them. -/
theorem Walk.exceeds (h : Walk e w input session st events st')
    (hbudget : budget < autoSteps events) (shown : List Prompt) (snapshot : Context) :
    ∃ before since stepId, events = before ++ since ∧ autoSteps before = budget ∧
      After (e.rest w input session budget shown snapshot st) (calls before)
        (.done (.error (.stuck w.id stepId e.limits.maxAutoSteps))) := by
  obtain ⟨before, s, c, since, hevents, hauto, hbefore⟩ := exists_automatic_entered hbudget
  obtain ⟨st₁, st₂, hwalk, hmove, -⟩ := h.split hevents
  obtain ⟨c₀, id, rfl, hstep, -, -⟩ := hmove.of_entered
  refine ⟨before, .entered s c :: since, s.id, hevents, hbefore, ?_⟩
  exact after_rest_iff.2 ⟨before, _, hwalk, rfl, .stuck hstep hauto hbefore⟩

end Simulation

section Openings

variable {c : Context} {s : Step} {log : CallLog H} {result : Except Error (Context × StepResult)}

/-- A context is located at a step of a registered workflow. -/
theorem locate_eq_ok_iff : e.locate c = .ok (w, s) ↔
    e.registry.get? w.id = some w ∧ c.workflowId = some w.id ∧ w.step? s.id = some s ∧
      c.currentStepId = some s.id := by
  constructor
  · intro h
    simp only [locate, workflow, Workflow.currentStep] at h
    cases hid : c.workflowId with
    | none => simp [hid] at h
    | some id =>
      cases hget : e.registry.get? id with
      | none => simp [hid, hget, Bind.bind, Except.bind] at h
      | some w' =>
        cases hstepId : c.currentStepId with
        | none => simp [hid, hget, hstepId, Bind.bind, Except.bind] at h
        | some stepId =>
          cases hstep : w'.step? stepId with
          | none => simp [hid, hget, hstepId, hstep, Bind.bind, Except.bind] at h
          | some s' =>
            simp only [hid, hget, hstepId, hstep, Bind.bind, Except.bind, Except.ok.injEq,
              Prod.mk.injEq] at h
            obtain ⟨rfl, rfl⟩ := h
            rw [Registry.get?_id hget, Workflow.step?_id hstep]
            exact ⟨hget, rfl, hstep, rfl⟩
  · rintro ⟨hget, hid, hstep, hstepId⟩
    simp [locate, workflow, Workflow.currentStep, hid, hget, hstepId, hstep, Bind.bind,
      Except.bind]

theorem exists_get? {id : String} {now : Instant} {r : Context × StepResult}
    (h : After (e.start id now session) log (.done (.ok r))) :
    ∃ w, e.registry.get? id = some w := by
  cases hget : e.registry.get? id with
  | some w => exact ⟨w, rfl⟩
  | none =>
    simp only [start, workflow, hget] at h
    cases (after_done_iff.1 h).2

theorem exists_locate {r : Context × StepResult}
    (h : After (e.processInput c input session) log (.done (.ok r))) :
    ∃ w s, e.locate c = .ok (w, s) := by
  simp only [processInput] at h
  cases hlocate : e.locate c with
  | ok there => exact ⟨there.1, there.2, rfl⟩
  | error err =>
    rw [hlocate] at h
    cases (after_done_iff.1 h).2

theorem processInput_eq_rest (h : e.locate c = .ok (w, s)) :
    e.processInput c input session =
      e.rest w input session e.limits.maxAutoSteps [] c (.resuming s c) := by
  rw [processInput, h]
  exact resume_eq_rest s c

/-- A turn with the user's input ends as its walk from the current step does. -/
theorem after_processInput_iff (h : e.locate c = .ok (w, s)) :
    After (e.processInput c input session) log (.done result) ↔
      Ends e w input session e.limits.maxAutoSteps [] c (.resuming s c) log result := by
  rw [processInput_eq_rest h]
  exact after_rest_iff

theorem after_start_iff {id : String} {now : Instant} (h : e.registry.get? id = some w) :
    After (e.start id now session) log (.done result) ↔
      Ends e w "" session e.limits.maxAutoSteps [] (Context.start w.id w.startStepId now)
        (.heading (Context.start w.id w.startStepId now) (.step w.startStepId)) log result := by
  simp only [start, workflow, h, begin_eq_rest]
  exact after_rest_iff

end Openings

end Engine

end Dialogue
