import Dialogue.Proofs.Visits

namespace Dialogue

open Interaction

variable {H : Type}

namespace Engine

def Event.isClosing : Event H → Bool
  | .entered _ _ => false
  | .acted _ _ => false
  | .closed _ _ => true

variable (e : Engine H) (w : Workflow) (input : String) (session : SessionRef)

/-- The calls by which a workflow is closed at a context, with the data they give: there is no hook,
or it is called and succeeds. -/
inductive Closes (c : Context) : CallLog H → Record → Prop
  | unhooked (hhook : w.onComplete = none) : Closes c [] []
  | hooked {hook : String} {handler : H} {report : Report} (hhook : w.onComplete = some hook)
      (h : e.actions.get? w.id hook = some handler) (hsuccess : report.success = true) :
      Closes c [⟨hookCall w input session c handler, .ok report⟩] (report.data.getD [])

/-- Whether a turn on the context `c` that begins at a stage completes the workflow: it reaches the
end, where the workflow is closed, and its result has what was collected until then. -/
def Completes (c : Context) (st : Stage) (log : CallLog H) (c' : Context) (finalData : Record)
    (shown : List Prompt) (message : Option Prompt) : Prop :=
  ∃ events last closing data, Walk e w input session st events (.heading last .finish) ∧
    autoSteps events ≤ e.limits.maxAutoSteps ∧ Closes e w input session last closing data ∧
    log = calls events ++ closing ∧ finalData = last.vars.merge data ∧
    shown = notices w events ∧ message = w.completionPrompt finalData ∧
    c' = { version := c.version }

/-- Whether the hook is called once at most among the events of a turn: not at all, or as the last
of them, at the end of the workflow. -/
def HookLast (st : Stage) (events : List (Event H)) : Prop :=
  (∀ event ∈ events, event.isClosing = false) ∨
    ∃ before last hook handler x,
      events = before ++ [.closed (hookCall w input session last handler) x] ∧
        (∀ event ∈ before, event.isClosing = false) ∧
        Walk e w input session st before (.heading last .finish) ∧
        w.onComplete = some hook ∧ e.actions.get? w.id hook = some handler

variable {e w input session}

section Walks

variable {s : Step} {c : Context} {action : Option String} {events : List (Event H)}
  {st st' : Stage}

theorem Acts.not_completed (h : Acts e w input session s c action events st) (c' : Context) :
    st ≠ .ended (.completed c') := by
  obtain ⟨vars, d, rfl⟩ | ⟨failure, rfl⟩ | ⟨err, rfl, -⟩ := h.leads
  · simp
  · simp
  · simp

theorem Move.of_completed (h : Move e w input session st events st')
    (hst' : st' = .ended (.completed c)) :
    ∃ last data, st = .heading last .finish ∧ entrances events = [] ∧
      Closes e w input session last (calls events) data ∧ c = last.merge data := by
  cases h with
  | accepted hkind hinteractive hcheck hacts => exact absurd hst' (hacts.not_completed c)
  | resumed hkind hinteractive hacts => exact absurd hst' (hacts.not_completed c)
  | runs hauto hkind hacts => exact absurd hst' (hacts.not_completed c)
  | completed hhook =>
    cases hst'
    exact ⟨c, [], rfl, rfl, .unhooked hhook, rfl⟩
  | @closed last hook handler hhook h x =>
    cases x with
    | error failure => simp [hooked] at hst'
    | ok report =>
      by_cases hsuccess : report.success = true
      · simp only [hooked, hsuccess, if_true] at hst'
        cases hst'
        exact ⟨last, _, rfl, rfl, .hooked hhook h hsuccess, rfl⟩
      · simp [hooked, hsuccess] at hst'
  | _ => cases hst'

theorem Closes.exists_move {closing : CallLog H} {data : Record}
    (h : Closes e w input session c closing data) :
    ∃ events, Move e w input session (.heading c .finish) events
        (.ended (.completed (c.merge data))) ∧ entrances events = [] ∧ calls events = closing := by
  cases h with
  | unhooked hhook => exact ⟨[], .completed hhook, rfl, rfl⟩
  | @hooked hook handler report hhook h hsuccess =>
    have hmove : Move e w input session (.heading c .finish) _ _ := .closed hhook h (.ok report)
    rw [Engine.hooked, if_pos hsuccess] at hmove
    exact ⟨_, hmove, rfl, rfl⟩

theorem Acts.not_closing (h : Acts e w input session s c action events st) :
    ∀ event ∈ events, event.isClosing = false := by
  cases h with
  | leaves => simp
  | unknown h => simp
  | asks h x => simp [Event.isClosing]

/-- The hook is called at the end, and with its answer the turn is over. -/
theorem Move.of_closing {event : Event H} (h : Move e w input session st [event] st')
    (hevent : event.isClosing = true) :
    ∃ last hook handler x, st = .heading last .finish ∧ st' = .ended (Engine.hooked last x) ∧
      event = .closed (hookCall w input session last handler) x ∧ w.onComplete = some hook ∧
      e.actions.get? w.id hook = some handler := by
  have hacts : ∀ {s c action}, ¬ Acts e w input session s c action [event] st' := by
    intro s c action hacts
    simp [hacts.not_closing event (by simp)] at hevent
  cases h with
  | accepted hkind hinteractive hcheck h => exact (hacts h).elim
  | resumed hkind hinteractive h => exact (hacts h).elim
  | runs hauto hkind h => exact (hacts h).elim
  | entered hstep => cases hevent
  | closed hhook h x => exact ⟨_, _, _, x, rfl, rfl, rfl, hhook, h⟩

/-- Until a turn is over, the hook has not been called. -/
theorem Walk.not_closing (h : Walk e w input session st events st') (hopen : ∀ f, st' ≠ .ended f) :
    ∀ event ∈ events, event.isClosing = false := by
  intro event hevent
  by_contra hclosing
  obtain ⟨before, since, hevents⟩ := List.append_of_mem hevent
  obtain ⟨st₁, st₂, -, hmove, hrest⟩ := h.split hevents
  obtain ⟨last, hook, handler, x, -, rfl, -, -, -⟩ := hmove.of_closing (by simpa using hclosing)
  cases hrest with
  | nil => exact hopen _ rfl
  | cons hmore hwalk => cases hmore

/-- In every walk the hook is called once at most, at the end, and nothing happens after it. -/
theorem Walk.hookLast (h : Walk e w input session st events st') :
    HookLast e w input session st events := by
  by_cases hclosing : ∃ event ∈ events, event.isClosing = true
  · right
    obtain ⟨event, hevent, hcalls⟩ := hclosing
    obtain ⟨before, since, rfl⟩ := List.append_of_mem hevent
    obtain ⟨st₁, st₂, hbefore, hmove, hrest⟩ := h.split rfl
    obtain ⟨last, hook, handler, x, rfl, rfl, rfl, hhook, hhandler⟩ := hmove.of_closing hcalls
    refine ⟨before, last, hook, handler, x, ?_, hbefore.not_closing (by simp), hbefore, hhook,
      hhandler⟩
    cases hrest with
    | nil => rfl
    | cons hmore hwalk => cases hmore
  · left
    intro event hevent
    by_contra hcalls
    exact hclosing ⟨event, hevent, by simpa using hcalls⟩

end Walks

section Turns

variable {c c' : Context} {st : Stage} {turn : Turn H} {log : CallLog H} {finalData : Record}
  {shown : List Prompt} {message : Option Prompt}

theorem Opens.completes (h : Opens e w session input c st turn)
    (hdone : After turn log (.done (.ok (c', .completed finalData shown message)))) :
    Completes e w input session c st log c' finalData shown message := by
  have hleaves : c' = { version := c.version } := h.leaves hdone
  obtain ⟨events, f, hwalk, rfl, hbudget, hresult⟩ := (after_rest_iff.1 (h.eq_rest ▸ hdone)).of_ok
  cases f with
  | completed c₁ =>
    cases hresult
    rcases hwalk.last with ⟨-, hst⟩ | ⟨events₁, events₂, st₁, rfl, hreaches, hmove⟩
    · exact absurd hst.symm (h.ne_ended _)
    · obtain ⟨last, data, rfl, hentrances, hcloses, rfl⟩ := hmove.of_completed rfl
      rw [autoSteps_append, autoSteps_of_entrances hentrances, Nat.add_zero] at hbudget
      refine ⟨events₁, last, _, data, hreaches, hbudget, hcloses, calls_append _ _, rfl, ?_, rfl,
        hleaves⟩
      rw [List.nil_append, notices_append, notices_of_entrances w hentrances, List.append_nil]
  | waiting s c₁ => cases hresult
  | refused reason s c₁ => cases hresult
  | failed stepId failure => cases hresult
  | broken err => cases hresult

theorem Opens.of_completes (h : Opens e w session input c st turn)
    (hcompletes : Completes e w input session c st log c' finalData shown message) :
    After turn log (.done (.ok (c', .completed finalData shown message))) := by
  obtain ⟨events, last, closing, data, hreaches, hbudget, hcloses, rfl, rfl, rfl, rfl, rfl⟩ :=
    hcompletes
  obtain ⟨more, hmove, hentrances, rfl⟩ := hcloses.exists_move
  have hmore : autoSteps (events ++ more) ≤ e.limits.maxAutoSteps := by
    rwa [autoSteps_append, autoSteps_of_entrances hentrances]
  have hends : Ends e w input session e.limits.maxAutoSteps [] c st
      (calls events ++ calls more) _ :=
    ⟨_, _, hreaches.snoc hmove, calls_append _ _, .ended _ hmore⟩
  have hdone := after_rest_iff.2 hends
  rw [← h.eq_rest, List.nil_append, notices_append, notices_of_entrances w hentrances,
    List.append_nil] at hdone
  -- What the turn leaves is the version it found.
  have hleaves : (last.merge data).clear = { version := c.version } := h.leaves hdone
  rw [Finish.result, hleaves] at hdone
  exact hdone

theorem Completes.message_vars
    (h : Completes e w input session c st log c' finalData shown message) :
    (message.isSome = true ↔ w.completionPromptKey.isSome = true) ∧
      ∀ prompt ∈ message, prompt.vars = finalData := by
  obtain ⟨events, last, closing, data, -, -, -, -, -, -, rfl, -⟩ := h
  rw [Workflow.completionPrompt]
  cases w.completionPromptKey with
  | none => simp
  | some key => simp

end Turns

/-- A turn completes exactly when it should. A start or an input ends with a completion exactly when
the turn's transitions reach the end and the hook, if there is one, succeeds there; the result has
the variables at the end with the data of the hook laid over them, and so has the message, if the
workflow has one; nothing is left but the version. And whatever the result of a turn, the hook is
called once at most, at the end, and no action after it. -/
theorem turn_completes :
    (∀ id now session log c' finalData shown message,
      After (e.start id now session) log
          (.done (.ok (c', .completed finalData shown message))) ↔
        ∃ w, e.registry.get? id = some w ∧
          Completes e w "" session (.start w.id w.startStepId now)
            (.heading (.start w.id w.startStepId now) (.step w.startStepId)) log c' finalData shown
            message) ∧
    (∀ c input session log c' finalData shown message,
      After (e.processInput c input session) log
          (.done (.ok (c', .completed finalData shown message))) ↔
        ∃ w s, e.locate c = .ok (w, s) ∧
          Completes e w input session c (.resuming s c) log c' finalData shown message) ∧
    (∀ w input session c st log c' finalData shown message,
      Completes e w input session c st log c' finalData shown message →
        (message.isSome = true ↔ w.completionPromptKey.isSome = true) ∧
          ∀ prompt ∈ message, prompt.vars = finalData) ∧
    ∀ w input session c st turn log result, Opens e w session input c st turn →
      After turn log (.done result) → ∃ events st', Walk e w input session st events st' ∧
        calls events = log ∧ Concludes e w e.limits.maxAutoSteps [] c events st' result ∧
        HookLast e w input session st events := by
  refine ⟨?_, ?_, ?_, ?_⟩
  · intro id now session log c' finalData shown message
    constructor
    · intro hdone
      cases hget : e.registry.get? id with
      | none =>
        simp only [start, workflow, hget] at hdone
        cases (after_done_iff.1 hdone).2
      | some w => exact ⟨w, rfl, (Opens.start now hget).completes hdone⟩
    · rintro ⟨w, hget, hcompletes⟩
      exact (Opens.start now hget).of_completes hcompletes
  · intro c input session log c' finalData shown message
    constructor
    · intro hdone
      obtain ⟨w, s, hlocate⟩ := exists_locate hdone
      exact ⟨w, s, hlocate, (Opens.input input hlocate).completes hdone⟩
    · rintro ⟨w, s, hlocate, hcompletes⟩
      exact (Opens.input input hlocate).of_completes hcompletes
  · intro w input session c st log c' finalData shown message hcompletes
    exact hcompletes.message_vars
  · intro w input session c st turn log result hopens hdone
    obtain ⟨events, st', hwalk, hcalls, hconcludes, -, -⟩ := hopens.ends hdone
    exact ⟨events, st', hwalk, hcalls, hconcludes, hwalk.hookLast⟩

def petition : Workflow where
  id := "petition"
  startStepId := "name"
  completionPromptKey := some "petition.filed"
  onComplete := some "file"
  steps := [{ id := "name", kind := some .input }]

def registrar : Engine Unit where
  registry := ⟨[petition]⟩
  actions := { shared := [("file", ())] }

def petitioning : Context where
  workflowId := some "petition"
  currentStepId := some "name"
  history := ["name"]
  version := 1

def petitioned : Record := [("name", .text (Text.trim "Ada"))]

def filing : Entry (fun _ : Call Unit => CallResult) :=
  ⟨⟨(), ⟨"petition", "name", [], petitioned, "Ada", ⟨"user", none⟩⟩⟩,
    .ok { success := true, data := some [("number", .text "7")] }⟩

/-- The answer completes the workflow once it has been filed. -/
theorem turn_completes_petition :
    ∃ finalData message, After (registrar.processInput petitioning "Ada" ⟨"user", none⟩) [filing]
        (.done (.ok ({ version := 1 }, .completed finalData [] message))) ∧
      finalData = petitioned.merge [("number", .text "7")] ∧ message.isSome = true ∧
      ∃ w s, registrar.locate petitioning = .ok (w, s) ∧
        Completes registrar w "Ada" ⟨"user", none⟩ petitioning (.resuming s petitioning) [filing]
          { version := 1 } finalData [] message := by
  have hdone : After (registrar.processInput petitioning "Ada" ⟨"user", none⟩) [filing]
      (.done (.ok ({ version := 1 }, .completed (petitioned.merge [("number", .text "7")]) []
        (petition.completionPrompt (petitioned.merge [("number", .text "7")]))))) :=
    .cons _ (.nil _)
  obtain ⟨-, hinput, -, -⟩ := turn_completes (e := registrar)
  exact ⟨_, _, hdone, rfl, rfl, (hinput _ _ _ _ _ _ _ _).1 hdone⟩

end Engine

end Dialogue
