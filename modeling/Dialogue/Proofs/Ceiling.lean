import Dialogue.Proofs.Simulation

namespace Dialogue

open Interaction

variable {H : Type}

namespace Workflow

variable {patterns : PatternReader} {w : Workflow} {s : Step} {err : Error}

theorem kind_of_pause (h : w.violations patterns = []) (hs : s ∈ w.steps)
    (hpause : s.pause = true) : s.kind = some .message := by
  simp only [violations, List.append_eq_nil_iff, List.flatMap_eq_nil_iff] at h
  have hviolations := h.2 s hs
  simp only [Step.violations, List.append_eq_nil_iff] at hviolations
  obtain ⟨⟨⟨⟨⟨-, helsewhere⟩, -⟩, -⟩, -⟩, -⟩ := hviolations
  by_contra hother
  simp [hpause, hother] at helsewhere

/-- So a step runs by itself unless it is interactive or paused. -/
theorem isAutomatic_eq (h : w.violations patterns = []) (hs : s ∈ w.steps) :
    s.isAutomatic = (!s.isInteractive && !s.pause) := by
  cases hpause : s.pause with
  | false => simp [Step.isAutomatic, hpause]
  | true => simp [Step.isAutomatic, hpause, kind_of_pause h hs hpause]

/-- The steps that run by themselves are the services and the messages without a pause. -/
theorem isAutomatic_iff (h : w.violations patterns = []) (hs : s ∈ w.steps) :
    s.isAutomatic = true ↔ s.kind = some .service ∨ s.kind = some .message ∧ s.pause = false := by
  have hsome := (sound_of_violations h).kind s hs
  obtain ⟨kind, hkind⟩ := Option.isSome_iff_exists.1 hsome
  cases kind with
  | message => simp [Step.isAutomatic, Step.isInteractive, StepKind.isInteractive, hkind]
  | input => simp [Step.isAutomatic, Step.isInteractive, StepKind.isInteractive, hkind]
  | choice => simp [Step.isAutomatic, Step.isInteractive, StepKind.isInteractive, hkind]
  | service => simp [Step.isAutomatic, Step.isInteractive, StepKind.isInteractive, hkind]

theorem kindOf_error (h : w.kindOf s = .error err) :
    err = .invalidWorkflow w.id [.noKind s.id] := by
  simp only [kindOf] at h
  split at h
  · cases h
  · cases h
    rfl

end Workflow

namespace Engine

variable {e : Engine H} {w : Workflow} {input : String} {session : SessionRef}

section Stuck

variable {s : Step} {c snapshot : Context} {action : Option String} {events : List (Event H)}
  {st st' : Stage} {budget limit : Nat} {shown : List Prompt} {log : CallLog H}
  {id stepId : String}

theorem Acts.ne_stuck (h : Acts e w input session s c action events st) :
    st ≠ .ended (.broken (.stuck id stepId limit)) := by
  obtain ⟨vars, d, rfl⟩ | ⟨failure, rfl⟩ | ⟨err, rfl, rfl | ⟨name, rfl⟩⟩ := h.leads
  · simp
  · simp
  · simp
  · simp

theorem Move.ne_stuck (h : Move e w input session st events st') :
    st' ≠ .ended (.broken (.stuck id stepId limit)) := by
  cases h with
  | kindless hkind => simp [Workflow.kindOf_error hkind]
  | refused hkind hinteractive hcheck => simp
  | accepted hkind hinteractive hcheck hacts => exact hacts.ne_stuck
  | resumed hkind hinteractive hacts => exact hacts.ne_stuck
  | missing hstep => simp
  | entered hstep => simp
  | waits hauto => simp
  | stumbles hauto hkind => simp [Workflow.kindOf_error hkind]
  | runs hauto hkind hacts => exact hacts.ne_stuck
  | completed hhook => simp
  | unhooked hhook h => simp
  | @closed c hook handler hhook h x =>
    cases x with
    | error failure => simp [hooked]
    | ok report =>
      by_cases hsuccess : report.success = true
      · simp [hooked, hsuccess]
      · simp [hooked, hsuccess]

/-- A turn is stuck exactly when its walk enters one automatic step more than the budget allows. -/
theorem after_stuck_iff (hst : ∀ f, st ≠ .ended f) :
    After (e.rest w input session budget shown snapshot st) log
        (.done (.error (.stuck id stepId limit))) ↔
      id = w.id ∧ limit = e.limits.maxAutoSteps ∧ ∃ events s c,
        Walk e w input session st (events ++ [.entered s c]) (.arrived s c) ∧ s.id = stepId ∧
          s.isAutomatic = true ∧ autoSteps events = budget ∧ calls events = log := by
  rw [after_rest_iff]
  constructor
  · rintro ⟨events, st', hwalk, hcalls, hconcludes⟩
    generalize hresult : Except.error (Error.stuck id stepId limit) = result at hconcludes
    cases hconcludes with
    | stuck hstep hauto hbudget =>
      cases hresult
      exact ⟨rfl, rfl, events, _, _, hwalk.snoc (.entered hstep), rfl, hauto, hbudget, hcalls⟩
    | ended f hbudget =>
      -- A walk that ends otherwise ends in a move, or has been at its end before.
      exfalso
      cases f with
      | broken err =>
        cases hresult
        rcases hwalk.last with ⟨-, hend⟩ | ⟨_, _, _, -, -, hmove⟩
        · exact hst _ hend.symm
        · exact hmove.ne_stuck rfl
      | waiting s c => cases hresult
      | refused reason s c => cases hresult
      | failed stepId failure => cases hresult
      | completed c => cases hresult
  · rintro ⟨rfl, rfl, events, s, c, hwalk, rfl, hauto, hbudget, hcalls⟩
    obtain ⟨st₁, st₂, hbefore, hmove, -⟩ := hwalk.split rfl
    obtain ⟨c₀, target, rfl, hstep, -, -⟩ := hmove.of_entered
    exact ⟨events, _, hbefore, hcalls, .stuck hstep hauto hbudget⟩

end Stuck

section Counting

variable {s : Step} {c snapshot : Context} {action : Option String} {events : List (Event H)}
  {st st' : Stage} {budget : Nat} {log : CallLog H} {result : Except Error (Context × StepResult)}

/-- A bound on the calls to come but for those of the automatic steps to enter. -/
def Stage.slack : Stage → Nat
  | .resuming _ _ => 2
  | .arrived s _ => if s.isAutomatic then 2 else 1
  | .heading _ _ => 1
  | .ended _ => 0

theorem Acts.slack_le (h : Acts e w input session s c action events st) :
    (calls events).length + st.slack ≤ 2 := by
  have hone : (calls events).length ≤ 1 := Nat.le_trans (List.length_filterMap_le _ _) h.length_le
  have hslack : st.slack ≤ 1 := by
    obtain ⟨vars, d, rfl⟩ | ⟨failure, rfl⟩ | ⟨err, rfl, -⟩ := h.leads
    · exact Nat.le_refl _
    · exact Nat.zero_le _
    · exact Nat.zero_le _
  omega

/-- Every call is paid for: by the stage the turn was at, or by an automatic step entered. -/
theorem Move.slack_le (h : Move e w input session st events st') :
    (calls events).length + st'.slack ≤ st.slack + autoSteps events := by
  cases h with
  | kindless hkind => simp [Stage.slack]
  | refused hkind hinteractive hcheck => simp [Stage.slack]
  | accepted hkind hinteractive hcheck hacts => exact Nat.le_add_right_of_le hacts.slack_le
  | resumed hkind hinteractive hacts => exact Nat.le_add_right_of_le hacts.slack_le
  | missing hstep => simp [Stage.slack]
  | @entered c id s hstep =>
    rw [autoSteps_entered, calls_entered]
    by_cases hauto : s.isAutomatic = true
    · simp [Stage.slack, hauto]
    · simp [Stage.slack, hauto]
  | waits hauto => simp [Stage.slack]
  | stumbles hauto hkind => simp [Stage.slack]
  | runs hauto hkind hacts =>
    rw [Stage.slack, if_pos hauto]
    exact Nat.le_add_right_of_le hacts.slack_le
  | completed hhook => simp [Stage.slack]
  | unhooked hhook h => simp [Stage.slack]
  | closed hhook h x => simp [Stage.slack, calls, Event.entry?, autoSteps]

theorem Walk.slack_le (h : Walk e w input session st events st') :
    (calls events).length + st'.slack ≤ st.slack + autoSteps events := by
  induction h with
  | nil st => simp
  | cons hmove hwalk ih =>
    have hfirst := hmove.slack_le
    rw [calls_append, List.length_append, autoSteps_append]
    omega

def noticesOf : Except Error (Context × StepResult) → List Prompt
  | .ok (_, .awaitingInput _ notices) => notices
  | .ok (_, .completed _ notices _) => notices
  | .ok (_, .validationError _ _ _) => []
  | .ok (_, .serviceError _ _) => []
  | .error _ => []

theorem Concludes.autoSteps_le {shown : List Prompt}
    (h : Concludes e w budget shown snapshot events st result) : autoSteps events ≤ budget := by
  cases h with
  | ended f hbudget => exact hbudget
  | stuck hstep hauto hbudget => exact Nat.le_of_eq hbudget

/-- Each notice of a turn is of an automatic step it entered. -/
theorem Concludes.length_noticesOf_le
    (h : Concludes e w budget [] snapshot events st result) :
    (noticesOf result).length ≤ autoSteps events := by
  have hnotices := length_notices_le w events
  cases h with
  | ended f hbudget =>
    cases f with
    | waiting s c => exact hnotices
    | refused reason s c => exact Nat.zero_le _
    | failed stepId failure => exact Nat.zero_le _
    | completed c => exact hnotices
    | broken err => exact Nat.zero_le _
  | stuck hstep hauto hbudget => exact Nat.zero_le _

end Counting

/-- The turns in a workflow, each with the stage it begins at: a start, and an input at a context
that is positioned on one of the steps. -/
inductive Opens (e : Engine H) (w : Workflow) (session : SessionRef) :
    String → Context → Stage → Turn H → Prop
  | start {id : String} (now : Instant) (hget : e.registry.get? id = some w) :
      Opens e w session "" (.start w.id w.startStepId now)
        (.heading (.start w.id w.startStepId now) (.step w.startStepId)) (e.start id now session)
  | input {c : Context} {s : Step} (input : String) (hlocate : e.locate c = .ok (w, s)) :
      Opens e w session input c (.resuming s c) (e.processInput c input session)

section Openings

variable {c : Context} {st : Stage} {turn : Turn H}

theorem Opens.eq_rest (h : Opens e w session input c st turn) :
    turn = e.rest w input session e.limits.maxAutoSteps [] c st := by
  cases h with
  | start now hget => simp only [Engine.start, workflow, hget, begin_eq_rest]
  | input input hlocate => exact processInput_eq_rest hlocate

theorem Opens.registered (h : Opens e w session input c st turn) : w ∈ e.registry.workflows := by
  cases h with
  | start now hget => exact List.mem_of_find?_eq_some hget
  | input input hlocate => exact List.mem_of_find?_eq_some (locate_eq_ok_iff.1 hlocate).1

theorem Opens.slack_le (h : Opens e w session input c st turn) : st.slack ≤ 2 := by
  cases h with
  | start now hget => simp [Stage.slack]
  | input input hlocate => simp [Stage.slack]

theorem Opens.ne_ended (h : Opens e w session input c st turn) (f : Finish) : st ≠ .ended f := by
  cases h with
  | start now hget => simp
  | input input hlocate => simp

/-- A finished turn went along a walk with few automatic steps, and with few calls for them. -/
theorem Opens.ends {log : CallLog H} {result : Except Error (Context × StepResult)}
    (h : Opens e w session input c st turn) (hdone : After turn log (.done result)) :
    ∃ events st', Walk e w input session st events st' ∧ calls events = log ∧
      Concludes e w e.limits.maxAutoSteps [] c events st' result ∧
      autoSteps events ≤ e.limits.maxAutoSteps ∧ log.length ≤ autoSteps events + 2 := by
  rw [h.eq_rest] at hdone
  obtain ⟨events, st', hwalk, rfl, hconcludes⟩ := after_rest_iff.1 hdone
  refine ⟨events, st', hwalk, rfl, hconcludes, hconcludes.autoSteps_le, ?_⟩
  have hpaid := hwalk.slack_le
  have hslack := h.slack_le
  omega

/-- Even a turn that is still under way has made few calls: it could be answered to its end. -/
theorem Opens.length_le {log : CallLog H} {p : Turn H} (h : Opens e w session input c st turn)
    (hafter : After turn log p) : log.length ≤ e.limits.maxAutoSteps + 2 := by
  obtain ⟨more, result, hdone⟩ := exists_done (fun _ => ⟨.error .timeout⟩) p
  obtain ⟨events, st', -, -, -, hauto, hlength⟩ := h.ends (hafter.append hdone)
  rw [List.length_append] at hlength
  omega

end Openings

/-- Every turn ends within the ceiling. Whatever answers the calls, it ends; it enters no more
automatic steps than allowed, these being the services and the messages without a pause, it makes at
most two calls more, it shows no more notices, and it is stuck exactly when its walk enters one
automatic step too many. -/
theorem turn_within_ceiling {c : Context} {st : Stage} {turn : Turn H}
    (hbuilt : e.registry.Built) (h : Opens e w session input c st turn) :
    (∀ s ∈ w.steps, s.isAutomatic = (!s.isInteractive && !s.pause) ∧
      (s.isAutomatic = true ↔
        s.kind = some .service ∨ s.kind = some .message ∧ s.pause = false)) ∧
    (∀ (σ : Type) (respond : σ → Call H → CallResult × σ) (x : σ),
      ∃ log, After turn log (.done (turn.run respond x).1)) ∧
    (∀ log p, After turn log p → log.length ≤ e.limits.maxAutoSteps + 2) ∧
    (∀ log result, After turn log (.done result) →
      (noticesOf result).length ≤ e.limits.maxAutoSteps ∧
      ∃ events st', Walk e w input session st events st' ∧ calls events = log ∧
        Concludes e w e.limits.maxAutoSteps [] c events st' result ∧
        autoSteps events ≤ e.limits.maxAutoSteps ∧ log.length ≤ autoSteps events + 2) ∧
    ∀ log id stepId limit, After turn log (.done (.error (.stuck id stepId limit))) ↔
      id = w.id ∧ limit = e.limits.maxAutoSteps ∧ ∃ events s c',
        Walk e w input session st (events ++ [.entered s c']) (.arrived s c') ∧ s.id = stepId ∧
          s.isAutomatic = true ∧ autoSteps events = e.limits.maxAutoSteps ∧
          calls events = log := by
  refine ⟨?_, ?_, ?_, ?_, ?_⟩
  · intro s hs
    have hnone := hbuilt.violations w h.registered
    exact ⟨Workflow.isAutomatic_eq hnone hs, Workflow.isAutomatic_iff hnone hs⟩
  · intro σ respond x
    exact exists_after_run respond x turn
  · intro log p hafter
    exact h.length_le hafter
  · intro log result hdone
    obtain ⟨events, st', hwalk, hcalls, hconcludes, hauto, hlength⟩ := h.ends hdone
    have hnotices := hconcludes.length_noticesOf_le
    exact ⟨Nat.le_trans hnotices hauto, events, st', hwalk, hcalls, hconcludes, hauto, hlength⟩
  · intro log id stepId limit
    rw [h.eq_rest]
    exact after_stuck_iff h.ne_ended

/-- A workflow whose only step is a service that leads to itself. -/
def carousel : Workflow where
  id := "carousel"
  startStepId := "turn"
  steps := [{ id := "turn", kind := some .service, action := some "turn",
              next := some (.fixed "turn") }]

def fairground : Engine Unit where
  registry := ⟨[carousel]⟩
  actions := { shared := [("turn", ())] }
  limits := { maxAutoSteps := 2 }

def ride : Entry (fun _ : Call Unit => CallResult) :=
  ⟨⟨(), ⟨"carousel", "turn", [], [], "", ⟨"user", none⟩⟩⟩, .ok { success := true }⟩

theorem turn_within_ceiling_carousel : fairground.registry.Built ∧
    After (fairground.start "carousel" ⟨0, 0⟩ ⟨"user", none⟩) [ride, ride]
      (.done (.error (.stuck "carousel" "turn" 2))) ∧
    (∀ log p, After (fairground.start "carousel" ⟨0, 0⟩ ⟨"user", none⟩) log p → log.length ≤ 4) ∧
    ∃ events s c, Walk fairground carousel "" ⟨"user", none⟩
        (.heading (.start "carousel" "turn" ⟨0, 0⟩) (.step "turn")) (events ++ [.entered s c])
        (.arrived s c) ∧ s.id = "turn" ∧ s.isAutomatic = true ∧ autoSteps events = 2 ∧
      calls events = [ride, ride] := by
  have hbuilt : fairground.registry.Built := Registry.built_singleton (by decide +kernel)
  have hopens : Opens fairground carousel ⟨"user", none⟩ "" (.start "carousel" "turn" ⟨0, 0⟩)
      (.heading (.start "carousel" "turn" ⟨0, 0⟩) (.step "turn"))
      (fairground.start "carousel" ⟨0, 0⟩ ⟨"user", none⟩) := .start ⟨0, 0⟩ rfl
  have hstuck : After (fairground.start "carousel" ⟨0, 0⟩ ⟨"user", none⟩) [ride, ride]
      (.done (.error (.stuck "carousel" "turn" 2))) := .cons _ (.cons _ (.nil _))
  obtain ⟨-, -, hlength, -, hexact⟩ := turn_within_ceiling hbuilt hopens
  exact ⟨hbuilt, hstuck, hlength, ((hexact _ _ _ _).1 hstuck).2.2⟩
end Engine

end Dialogue
