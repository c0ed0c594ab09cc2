import Dialogue.Proofs.Soundness

namespace Dialogue

open Interaction

variable {H : Type}

namespace Step

/-- The action that a step has called when it runs by itself. -/
def ownAction (s : Step) : Option String := if s.kind = some .service then s.action else none

theorem isInteractive_of_isAutomatic {s : Step} (h : s.isAutomatic = true) :
    s.isInteractive = false := by
  simp only [isAutomatic, Bool.and_eq_true] at h
  simpa using h.1

end Step

namespace Workflow

variable {w : Workflow} {s : Step} {c : Context}

theorem isInteractive_of_kindOf {kind : StepKind} (h : w.kindOf s = .ok kind) :
    s.isInteractive = kind.isInteractive := by
  simp only [kindOf] at h
  split at h
  · rename_i hkind
    cases h
    simp [Step.isInteractive, hkind]
  · cases h

/-- Without a way on from a step there is an error, which names it. -/
theorem destination_cases (w : Workflow) (s : Step) (c : Context) :
    (∃ d, w.destination s c = .ok d) ∨
      w.destination s c = .error (.unresolvedTransition w.id s.id) := by
  simp only [destination]
  cases s.next with
  | none => exact .inl ⟨_, rfl⟩
  | some t =>
    cases hresolve : t.resolve c.vars with
    | some d => exact .inl ⟨d, by simp [hresolve]⟩
    | none => exact .inr (by simp [hresolve])

theorem recover_cases {failure : CallFailure} {data : Option Record} :
    (∃ vars d, w.recover s c failure data = .advance { c with vars } d) ∨
      w.recover s c failure data = .refuse failure ∨
      w.recover s c failure data = .broken (.unresolvedTransition w.id s.id) := by
  simp only [recover]
  cases s.onError with
  | none => exact .inr (.inl rfl)
  | some t =>
    generalize hnext : (if ((data.getD []).get? "error").isSome then c.merge (data.getD [])
      else (c.merge (data.getD [])).set "error" (.text failure.code)) = next
    have hvars : next = { c with vars := next.vars } := by
      subst hnext
      split
      · rfl
      · rfl
    cases hresolve : t.resolve next.vars with
    | some d => exact .inl ⟨next.vars, d, by simp [hresolve, ← hvars]⟩
    | none => exact .inr (.inr (by simp [hresolve]))

/-- The answer to an action leads on with nothing changed but the variables, or the action failed,
or there is no way on. -/
theorem settle_cases (w : Workflow) (s : Step) (c : Context) (x : CallResult) :
    (∃ vars d, w.settle s c x = .advance { c with vars } d) ∨
      (∃ failure, w.settle s c x = .refuse failure) ∨
      w.settle s c x = .broken (.unresolvedTransition w.id s.id) := by
  cases x with
  | error failure => exact recover_cases.imp_right (.imp_left fun h => ⟨failure, h⟩)
  | ok report =>
    simp only [settle]
    split
    · cases report.nextStepOverride with
      | some target => exact .inl ⟨_, _, rfl⟩
      | none =>
        generalize hnext : Context.merge { c with vars := c.vars.erase "error" }
          (report.data.getD []) = next
        have hvars : next = { c with vars := next.vars } := hnext ▸ rfl
        rcases destination_cases w s next with ⟨d, hd⟩ | hd
        · exact .inl ⟨next.vars, d, by simp [hd, ← hvars]⟩
        · exact .inr (.inr (by simp [hd]))
    · exact recover_cases.imp_right (.imp_left fun h => ⟨_, h⟩)

end Workflow

namespace Engine

/-- What happens in a turn: a step is entered, the context being the one right after the transition;
the action of a step is called; or the hook at the end of the workflow is. -/
inductive Event (H : Type) where
  | entered (s : Step) (c : Context)
  | acted (call : Call H) (answer : CallResult)
  | closed (call : Call H) (answer : CallResult)

namespace Event

def entry? : Event H → Option (Entry fun _ : Call H => CallResult)
  | .entered _ _ => none
  | .acted call answer => some ⟨call, answer⟩
  | .closed call answer => some ⟨call, answer⟩

def entrance? : Event H → Option Context
  | .entered _ c => some c
  | .acted _ _ => none
  | .closed _ _ => none

def isAutomatic : Event H → Bool
  | .entered s _ => s.isAutomatic
  | .acted _ _ => false
  | .closed _ _ => false

/-- The notice of an event: a message that is entered and not waited on is shown. -/
def notice? (w : Workflow) : Event H → Option Prompt
  | .entered s c =>
    if s.isAutomatic ∧ s.kind = some .message then some (w.prompt s c none) else none
  | .acted _ _ => none
  | .closed _ _ => none

end Event

def calls (events : List (Event H)) : CallLog H := events.filterMap Event.entry?

/-- How many of the steps entered run by themselves. -/
def autoSteps (events : List (Event H)) : Nat := events.countP Event.isAutomatic

def notices (w : Workflow) (events : List (Event H)) : List Prompt :=
  events.filterMap (Event.notice? w)

/-- The contexts held when steps were entered. -/
def entrances (events : List (Event H)) : List Context := events.filterMap Event.entrance?

/-- The context held when the last step was entered, or `c` if none was. -/
def held (c : Context) (events : List (Event H)) : Context := (entrances events).getLastD c

section Events

variable (w : Workflow) (c : Context) (events events' : List (Event H))

@[simp]
theorem calls_nil : calls ([] : List (Event H)) = [] := rfl

@[simp]
theorem calls_append : calls (events ++ events') = calls events ++ calls events' :=
  List.filterMap_append

@[simp]
theorem autoSteps_nil : autoSteps ([] : List (Event H)) = 0 := rfl

@[simp]
theorem autoSteps_append :
    autoSteps (events ++ events') = autoSteps events + autoSteps events' :=
  List.countP_append

@[simp]
theorem notices_nil : notices w ([] : List (Event H)) = [] := rfl

@[simp]
theorem notices_append :
    notices w (events ++ events') = notices w events ++ notices w events' :=
  List.filterMap_append

@[simp]
theorem held_nil : held c ([] : List (Event H)) = c := rfl

@[simp]
theorem entrances_append :
    entrances (events ++ events') = entrances events ++ entrances events' :=
  List.filterMap_append

@[simp]
theorem held_append : held c (events ++ events') = held (held c events) events' := by
  simp only [held, entrances_append]
  cases entrances events' with
  | nil => simp
  | cons c' cs => simp [List.getLastD_eq_getLast?]

@[simp]
theorem autoSteps_entered (s : Step) :
    autoSteps ([.entered s c] : List (Event H)) = if s.isAutomatic then 1 else 0 := by
  rw [autoSteps, List.countP_cons, List.countP_nil, Nat.zero_add]
  rfl

@[simp]
theorem calls_entered (s : Step) : calls (.entered s c :: events) = calls events := rfl

@[simp]
theorem entrances_entered (s : Step) :
    entrances (.entered s c :: events) = c :: entrances events := rfl

@[simp]
theorem held_entered (c' : Context) (s : Step) :
    held c (.entered s c' :: events) = held c' events := by
  simp [held, List.getLast?_cons]

theorem length_notices_le : (notices w events).length ≤ autoSteps events := by
  induction events with
  | nil => simp
  | cons event events ih =>
    cases event with
    | entered s c =>
      simp only [notices, autoSteps, List.filterMap_cons, List.countP_cons, Event.notice?,
        Event.isAutomatic] at ih ⊢
      by_cases hauto : s.isAutomatic = true
      · by_cases hkind : s.kind = some .message
        · simpa [hauto, hkind] using ih
        · simp only [hauto, hkind, and_false, if_false, if_true]
          omega
      · simpa [hauto] using ih
    | acted call answer => exact ih
    | closed call answer => exact ih

variable {events}

theorem autoSteps_of_entrances (h : entrances events = []) : autoSteps events = 0 := by
  rw [autoSteps, List.countP_eq_zero]
  intro event hevent
  have hnone := List.filterMap_eq_nil_iff.1 h event hevent
  cases event with
  | entered s c => cases hnone
  | acted call answer => simp [Event.isAutomatic]
  | closed call answer => simp [Event.isAutomatic]

theorem notices_of_entrances (h : entrances events = []) : notices w events = [] := by
  have hle := length_notices_le w events
  rw [autoSteps_of_entrances h] at hle
  exact List.length_eq_zero_iff.1 (Nat.le_zero.1 hle)

theorem held_of_entrances (h : entrances events = []) : held c events = c := by
  rw [held, h]
  rfl

theorem exists_last_entered (h : entrances events ≠ []) :
    ∃ before s c since, events = before ++ .entered s c :: since ∧ entrances since = [] := by
  induction events with
  | nil => exact absurd rfl h
  | cons event events ih =>
    by_cases hevents : entrances events = []
    · cases event with
      | entered s c => exact ⟨[], s, c, events, rfl, hevents⟩
      | acted call answer => exact absurd hevents h
      | closed call answer => exact absurd hevents h
    · obtain ⟨before, s, c, since, rfl, hsince⟩ := ih hevents
      exact ⟨event :: before, s, c, since, rfl, hsince⟩

theorem exists_automatic_entered {budget : Nat} (h : budget < autoSteps events) :
    ∃ before s c since, events = before ++ .entered s c :: since ∧ s.isAutomatic = true ∧
      autoSteps before = budget := by
  induction events generalizing budget with
  | nil => simp at h
  | cons event events ih =>
    rw [← List.singleton_append, autoSteps_append] at h
    by_cases hevent : event.isAutomatic = true
    · have hone : autoSteps [event] = 1 := by simp [autoSteps, hevent]
      cases budget with
      | zero =>
        cases event with
        | entered s c => exact ⟨[], s, c, events, rfl, hevent, rfl⟩
        | acted call answer => cases hevent
        | closed call answer => cases hevent
      | succ budget =>
        have hmore : budget < autoSteps events := by omega
        obtain ⟨before, s, c, since, rfl, hauto, hbefore⟩ := ih hmore
        refine ⟨event :: before, s, c, since, rfl, hauto, ?_⟩
        rw [← List.singleton_append, autoSteps_append, hone, hbefore, Nat.add_comm]
    · have hzero : autoSteps [event] = 0 := by simp [autoSteps, hevent]
      have hmore : budget < autoSteps events := by omega
      obtain ⟨before, s, c, since, rfl, hauto, hbefore⟩ := ih hmore
      refine ⟨event :: before, s, c, since, rfl, hauto, ?_⟩
      rw [← List.singleton_append, autoSteps_append, hzero, hbefore, Nat.zero_add]

end Events

/-- How a turn ends: it waits at a step, the input is refused, a call failed, the workflow is
completed, or the turn broke down. -/
inductive Finish where
  | waiting (s : Step) (c : Context)
  | refused (reason : Reason) (s : Step) (c : Context)
  | failed (stepId : String) (failure : CallFailure)
  | completed (c : Context)
  | broken (err : Error)

/-- Where a turn stands: at the step it begins on, with the input of the user; at a step it has just
entered; on the way to a destination; or at its end. -/
inductive Stage where
  | resuming (s : Step) (c : Context)
  | arrived (s : Step) (c : Context)
  | heading (c : Context) (d : Destination)
  | ended (f : Finish)

/-- The result of a turn that ends some way, where `snapshot` is the context to go back to. -/
def Finish.result (w : Workflow) (shown : List Prompt) (snapshot : Context) :
    Finish → Except Error (Context × StepResult)
  | .waiting s c => .ok (c, .awaitingInput (w.prompt s c none) shown)
  | .refused reason s c =>
    .ok (c, .validationError reason (w.prompt s c (some reason)) c.retryCount)
  | .failed stepId failure => .ok (snapshot, .serviceError stepId failure)
  | .completed c => .ok (c.clear, .completed c.vars shown (w.completionPrompt c.vars))
  | .broken err => .error err

/-- The stage after a step that leads on without a call. -/
def leaving (c : Context) : Except Error Destination → Stage
  | .ok d => .heading c d
  | .error err => .ended (.broken err)

/-- The stage after the answer to a step's action. -/
def settled (s : Step) : Outcome → Stage
  | .advance c d => .heading c d
  | .refuse failure => .ended (.failed s.id failure)
  | .broken err => .ended (.broken err)

def hooked (c : Context) : CallResult → Finish
  | .ok r =>
    if r.success then .completed (c.merge (r.data.getD []))
    else .failed (c.currentStepId.getD endTarget) r.failure
  | .error failure => .failed (c.currentStepId.getD endTarget) failure

def accepted (e : Engine H) (s : Step) (c : Context) (value : Value) : Context :=
  Context.visit { c.set s.id value with retryCount := 0 } s.id e.limits.historyLimit

/-- The context that waits at a step just entered. -/
def awaiting (e : Engine H) (s : Step) (c : Context) : Context :=
  if s.isInteractive then c.visit s.id e.limits.historyLimit else c

variable (e : Engine H) (w : Workflow) (input : String) (session : SessionRef)

def actionCall (s : Step) (c : Context) (handler : H) : Call H :=
  ⟨handler, ⟨w.id, s.id, s.resolvedParams c.vars, c.vars, input, session⟩⟩

def hookCall (c : Context) (handler : H) : Call H :=
  ⟨handler, ⟨w.id, c.currentStepId.getD endTarget, [], c.vars, input, session⟩⟩

/-- What a step does at a context: without an action it leads on, with one it calls it and leads on
as the answer says. -/
inductive Acts (s : Step) (c : Context) : Option String → List (Event H) → Stage → Prop
  | leaves : Acts s c none [] (leaving c (w.destination s c))
  | unknown {action : String} (h : e.actions.get? w.id action = none) :
      Acts s c (some action) [] (.ended (.broken (.unknownAction w.id action)))
  | asks {action : String} {handler : H} (h : e.actions.get? w.id action = some handler)
      (x : CallResult) :
      Acts s c (some action) [.acted (actionCall w input session s c handler) x]
        (settled s (w.settle s c x))

inductive Move : Stage → List (Event H) → Stage → Prop
  | kindless {s : Step} {c : Context} {err : Error} (hkind : w.kindOf s = .error err) :
      Move (.resuming s c) [] (.ended (.broken err))
  | refused {s : Step} {c : Context} {kind : StepKind} {reason : Reason}
      (hkind : w.kindOf s = .ok kind) (hinteractive : kind.isInteractive = true)
      (hcheck : s.check e.patterns kind input = .error reason) :
      Move (.resuming s c) []
        (.ended (.refused reason s { c with retryCount := c.retryCount + 1 }))
  | accepted {s : Step} {c : Context} {kind : StepKind} {value : Value}
      {events : List (Event H)} {st : Stage} (hkind : w.kindOf s = .ok kind)
      (hinteractive : kind.isInteractive = true)
      (hcheck : s.check e.patterns kind input = .ok value)
      (hacts : Acts e w input session s (e.accepted s c value) s.action events st) :
      Move (.resuming s c) events st
  | resumed {s : Step} {c : Context} {kind : StepKind} {events : List (Event H)} {st : Stage}
      (hkind : w.kindOf s = .ok kind) (hinteractive : kind.isInteractive = false)
      (hacts : Acts e w input session s c s.ownAction events st) :
      Move (.resuming s c) events st
  | missing {c : Context} {id : String} (hstep : w.step? id = none) :
      Move (.heading c (.step id)) [] (.ended (.broken (.stepNotFound w.id id)))
  | entered {c : Context} {id : String} {s : Step} (hstep : w.step? id = some s) :
      Move (.heading c (.step id)) [.entered s (c.moveTo s.id)] (.arrived s (c.moveTo s.id))
  | waits {s : Step} {c : Context} (hauto : s.isAutomatic = false) :
      Move (.arrived s c) [] (.ended (.waiting s (e.awaiting s c)))
  | stumbles {s : Step} {c : Context} {err : Error} (hauto : s.isAutomatic = true)
      (hkind : w.kindOf s = .error err) : Move (.arrived s c) [] (.ended (.broken err))
  | runs {s : Step} {c : Context} {kind : StepKind} {events : List (Event H)} {st : Stage}
      (hauto : s.isAutomatic = true) (hkind : w.kindOf s = .ok kind)
      (hacts : Acts e w input session s c s.ownAction events st) :
      Move (.arrived s c) events st
  | completed {c : Context} (hhook : w.onComplete = none) :
      Move (.heading c .finish) [] (.ended (.completed c))
  | unhooked {c : Context} {hook : String} (hhook : w.onComplete = some hook)
      (h : e.actions.get? w.id hook = none) :
      Move (.heading c .finish) [] (.ended (.broken (.unknownAction w.id hook)))
  | closed {c : Context} {hook : String} {handler : H} (hhook : w.onComplete = some hook)
      (h : e.actions.get? w.id hook = some handler) (x : CallResult) :
      Move (.heading c .finish) [.closed (hookCall w input session c handler) x]
        (.ended (hooked c x))

/-- Moves one after the other. -/
inductive Walk : Stage → List (Event H) → Stage → Prop
  | nil (st : Stage) : Walk st [] st
  | cons {st st' st'' : Stage} {events events' : List (Event H)}
      (h : Move e w input session st events st') (hrest : Walk st' events' st'') :
      Walk st (events ++ events') st''

variable {e w input session}

section Walks

variable {s : Step} {c : Context} {action : Option String} {events events' : List (Event H)}
  {st st' st₁ st₂ : Stage}

/-- A step's own doing enters no step. -/
theorem Acts.entrances (h : Acts e w input session s c action events st) :
    entrances events = [] := by
  cases h with
  | leaves => rfl
  | unknown h => rfl
  | asks h x => rfl

theorem Acts.length_le (h : Acts e w input session s c action events st) : events.length ≤ 1 := by
  cases h with
  | leaves => simp
  | unknown h => simp
  | asks h x => simp

/-- A step's own doing changes nothing of the context but the variables and leads on, or the turn
is over because the action failed, is not there or there is no way on. -/
theorem Acts.leads (h : Acts e w input session s c action events st) :
    (∃ vars d, st = .heading { c with vars } d) ∨ (∃ failure, st = .ended (.failed s.id failure)) ∨
      ∃ err, st = .ended (.broken err) ∧
        (err = .unresolvedTransition w.id s.id ∨ ∃ name, err = .unknownAction w.id name) := by
  cases h with
  | leaves =>
    rcases Workflow.destination_cases w s c with ⟨d, hd⟩ | hd
    · exact .inl ⟨c.vars, d, by rw [hd, leaving]⟩
    · exact .inr (.inr ⟨_, by rw [hd, leaving], .inl rfl⟩)
  | unknown h => exact .inr (.inr ⟨_, rfl, .inr ⟨_, rfl⟩⟩)
  | asks h x =>
    rcases Workflow.settle_cases w s c x with ⟨vars, d, hx⟩ | ⟨failure, hx⟩ | hx
    · exact .inl ⟨vars, d, by rw [hx, settled]⟩
    · exact .inr (.inl ⟨failure, by rw [hx, settled]⟩)
    · exact .inr (.inr ⟨_, by rw [hx, settled], .inl rfl⟩)

/-- A step's own doing leads to no step directly. -/
theorem Acts.not_at (h : Acts e w input session s c action events st) (s' : Step) (c' : Context) :
    st ≠ .arrived s' c' ∧ st ≠ .resuming s' c' := by
  obtain ⟨vars, d, rfl⟩ | ⟨failure, rfl⟩ | ⟨err, rfl, -⟩ := h.leads
  · simp
  · simp
  · simp

theorem Move.length_le (h : Move e w input session st events st₁) : events.length ≤ 1 := by
  cases h with
  | kindless hkind => simp
  | refused hkind hinteractive hcheck => simp
  | accepted hkind hinteractive hcheck hacts => exact hacts.length_le
  | resumed hkind hinteractive hacts => exact hacts.length_le
  | missing hstep => simp
  | entered hstep => simp
  | waits hauto => simp
  | stumbles hauto hkind => simp
  | runs hauto hkind hacts => exact hacts.length_le
  | completed hhook => simp
  | unhooked hhook h => simp
  | closed hhook h x => simp

theorem Move.of_entered (h : Move e w input session st [.entered s c] st₁) :
    ∃ c₀ id, st = .heading c₀ (.step id) ∧ w.step? id = some s ∧ c = c₀.moveTo s.id ∧
      st₁ = .arrived s c := by
  cases h with
  | accepted hkind hinteractive hcheck hacts => simpa using hacts.entrances
  | resumed hkind hinteractive hacts => simpa using hacts.entrances
  | entered hstep => exact ⟨_, _, rfl, hstep, rfl, rfl⟩
  | runs hauto hkind hacts => simpa using hacts.entrances

theorem Move.to_arrived (h : Move e w input session st events (.arrived s c)) :
    ∃ c₀ id, st = .heading c₀ (.step id) ∧ w.step? id = some s ∧ c = c₀.moveTo s.id ∧
      events = [.entered s c] := by
  cases h with
  | accepted hkind hinteractive hcheck hacts => exact absurd rfl (hacts.not_at s c).1
  | resumed hkind hinteractive hacts => exact absurd rfl (hacts.not_at s c).1
  | entered hstep => exact ⟨_, _, rfl, hstep, rfl, rfl⟩
  | runs hauto hkind hacts => exact absurd rfl (hacts.not_at s c).1

/-- Only at its beginning does a turn take the user's input. -/
theorem Move.not_to_resuming : ¬ Move e w input session st events (.resuming s c) := by
  intro h
  cases h with
  | accepted hkind hinteractive hcheck hacts => exact (hacts.not_at s c).2 rfl
  | resumed hkind hinteractive hacts => exact (hacts.not_at s c).2 rfl
  | runs hauto hkind hacts => exact (hacts.not_at s c).2 rfl

/-- A walk is split at an event: it comes to a stage, makes the move of the event and goes on. -/
theorem Walk.split {before since : List (Event H)} {event : Event H}
    (h : Walk e w input session st events st') (hevents : events = before ++ event :: since) :
    ∃ st₁ st₂, Walk e w input session st before st₁ ∧ Move e w input session st₁ [event] st₂ ∧
      Walk e w input session st₂ since st' := by
  induction h generalizing before with
  | nil st => simp at hevents
  | @cons st st₁ st' events events' hmove hwalk ih =>
    have hlength := hmove.length_le
    cases events with
    | nil =>
      obtain ⟨st₂, st₃, h₁, h₂, h₃⟩ := ih hevents
      exact ⟨st₂, st₃, .cons hmove h₁, h₂, h₃⟩
    | cons first more =>
      -- A move comes with one event at most, so there are no more of them.
      obtain rfl : more = [] := List.length_eq_zero_iff.1 (by simpa using hlength)
      cases before with
      | nil =>
        obtain ⟨rfl, rfl⟩ := List.cons.inj hevents
        exact ⟨st, st₁, .nil st, hmove, hwalk⟩
      | cons first' before =>
        obtain ⟨rfl, htail⟩ := List.cons.inj hevents
        obtain ⟨st₂, st₃, h₁, h₂, h₃⟩ := ih htail
        exact ⟨st₂, st₃, .cons hmove h₁, h₂, h₃⟩

theorem Walk.trans (h₁ : Walk e w input session st events st₁)
    (h₂ : Walk e w input session st₁ events' st₂) :
    Walk e w input session st (events ++ events') st₂ := by
  induction h₁ with
  | nil st => exact h₂
  | cons hmove hwalk ih =>
    rw [List.append_assoc]
    exact .cons hmove (ih h₂)

theorem Walk.snoc (h : Walk e w input session st events st₁)
    (hmove : Move e w input session st₁ events' st₂) :
    Walk e w input session st (events ++ events') st₂ := by
  simpa using h.trans (.cons hmove (.nil st₂))

theorem Walk.last (h : Walk e w input session st events st₂) :
    events = [] ∧ st₂ = st ∨ ∃ events₁ events₂ st₁, events = events₁ ++ events₂ ∧
      Walk e w input session st events₁ st₁ ∧ Move e w input session st₁ events₂ st₂ := by
  induction h with
  | nil st => exact .inl ⟨rfl, rfl⟩
  | @cons st st₁ st₂ first more hmove hwalk ih =>
    right
    rcases ih with ⟨rfl, rfl⟩ | ⟨events₁, events₂, st', rfl, hwalk', hlast⟩
    · exact ⟨[], first, st, by simp, .nil st, hmove⟩
    · exact ⟨first ++ events₁, events₂, st', by simp, .cons hmove hwalk', hlast⟩

theorem Acts.unique (h₁ : Acts e w input session s c action events st₁)
    (h₂ : Acts e w input session s c action events' st₂) :
    (calls events).length = (calls events').length ∧
      (calls events = calls events' → events = events' ∧ st₁ = st₂) := by
  cases h₁ with
  | leaves =>
    cases h₂ with
    | leaves => exact ⟨rfl, fun _ => ⟨rfl, rfl⟩⟩
  | unknown h =>
    cases h₂ with
    | unknown h' => exact ⟨rfl, fun _ => ⟨rfl, rfl⟩⟩
    | asks h' x => simp [h] at h'
  | asks h x =>
    cases h₂ with
    | unknown h' => simp [h] at h'
    | asks h' x' =>
      cases h.symm.trans h'
      refine ⟨rfl, fun hcalls => ?_⟩
      have hx : x = x' := by simpa [calls, Event.entry?] using hcalls
      rw [hx]
      exact ⟨rfl, rfl⟩

theorem Move.unique (h₁ : Move e w input session st events st₁)
    (h₂ : Move e w input session st events' st₂) :
    (calls events).length = (calls events').length ∧
      (calls events = calls events' → events = events' ∧ st₁ = st₂) := by
  -- Moves of two kinds from one stage differ in what they ask of the step or of the workflow.
  cases h₁ with
  | kindless hkind =>
    cases h₂ with
    | kindless hkind' =>
      cases hkind.symm.trans hkind'
      exact ⟨rfl, fun _ => ⟨rfl, rfl⟩⟩
    | _ => simp_all
  | refused hkind hinteractive hcheck =>
    cases h₂ with
    | refused hkind' _ hcheck' =>
      cases hkind.symm.trans hkind'
      cases hcheck.symm.trans hcheck'
      exact ⟨rfl, fun _ => ⟨rfl, rfl⟩⟩
    | _ => simp_all
  | accepted hkind hinteractive hcheck hacts =>
    cases h₂ with
    | accepted hkind' _ hcheck' hacts' =>
      cases hkind.symm.trans hkind'
      cases hcheck.symm.trans hcheck'
      exact hacts.unique hacts'
    | _ => simp_all
  | resumed hkind hinteractive hacts =>
    cases h₂ with
    | resumed _ _ hacts' => exact hacts.unique hacts'
    | _ => simp_all
  | missing hstep =>
    cases h₂ with
    | missing _ => exact ⟨rfl, fun _ => ⟨rfl, rfl⟩⟩
    | _ => simp_all
  | entered hstep =>
    cases h₂ with
    | entered hstep' =>
      cases hstep.symm.trans hstep'
      exact ⟨rfl, fun _ => ⟨rfl, rfl⟩⟩
    | _ => simp_all
  | waits hauto =>
    cases h₂ with
    | waits _ => exact ⟨rfl, fun _ => ⟨rfl, rfl⟩⟩
    | _ => simp_all
  | stumbles hauto hkind =>
    cases h₂ with
    | stumbles _ hkind' =>
      cases hkind.symm.trans hkind'
      exact ⟨rfl, fun _ => ⟨rfl, rfl⟩⟩
    | _ => simp_all
  | runs hauto hkind hacts =>
    cases h₂ with
    | runs _ _ hacts' => exact hacts.unique hacts'
    | _ => simp_all
  | completed hhook =>
    cases h₂ with
    | completed _ => exact ⟨rfl, fun _ => ⟨rfl, rfl⟩⟩
    | _ => simp_all
  | unhooked hhook h =>
    cases h₂ with
    | unhooked hhook' _ =>
      cases hhook.symm.trans hhook'
      exact ⟨rfl, fun _ => ⟨rfl, rfl⟩⟩
    | _ => simp_all
  | closed hhook h x =>
    cases h₂ with
    | closed hhook' h' x' =>
      cases hhook.symm.trans hhook'
      cases h.symm.trans h'
      refine ⟨rfl, fun hcalls => ?_⟩
      have hx : x = x' := by simpa [calls, Event.entry?] using hcalls
      rw [hx]
      exact ⟨rfl, rfl⟩
    | _ => simp_all

/-- The answers determine the events: whatever else a finished walk does, it begins with what
happens in any walk whose calls it begins with. -/
theorem Walk.determined {f : Finish} (h₁ : Walk e w input session st events st₁)
    (h₂ : Walk e w input session st events' (.ended f)) (hcalls : calls events <+: calls events') :
    events <+: events' := by
  induction h₁ generalizing events' with
  | nil st => exact List.nil_prefix
  | @cons st st' st₁ first more hmove hwalk ih =>
    cases h₂ with
    | nil => cases hmove
    | @cons _ st'' _ first' more' hmove' hwalk' =>
      obtain ⟨hlength, hunique⟩ := hmove.unique hmove'
      obtain ⟨since, hsince⟩ := hcalls
      rw [calls_append, calls_append, List.append_assoc] at hsince
      obtain ⟨hfirst, hmore⟩ := List.append_inj hsince hlength
      obtain ⟨rfl, rfl⟩ := hunique hfirst
      exact (List.prefix_append_right_inj first).2 (ih hwalk' ⟨since, hmore⟩)

theorem Walk.unique {f f' : Finish} (h₁ : Walk e w input session st events (.ended f))
    (h₂ : Walk e w input session st events' (.ended f')) (hcalls : calls events = calls events') :
    events = events' := by
  have hprefix := h₁.determined h₂ (hcalls ▸ List.prefix_refl _)
  exact hprefix.eq_of_length_le (h₂.determined h₁ (hcalls ▸ List.prefix_refl _)).length_le

end Walks

end Engine

end Dialogue
