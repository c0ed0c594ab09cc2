import Dialogue.Proofs.Delivery
import Dialogue.Proofs.Resumption

namespace Dialogue

open Interaction

variable {H σ : Type} {p : Step → Bool}

namespace Step

/-- The step, paused if it is a message that `p` selects. -/
def pausing (p : Step → Bool) (s : Step) : Step :=
  { s with pause := s.pause || (decide (s.kind = some .message) && p s) }

variable {s : Step}

/-- A pause only ever keeps a step from running by itself. -/
theorem isAutomatic_of_pausing (h : (s.pausing p).isAutomatic = true) : s.isAutomatic = true := by
  by_cases hkind : s.kind = some .message
  · simp only [isAutomatic, pausing, isInteractive, hkind] at h ⊢
    simp_all
  · simpa [isAutomatic, pausing, isInteractive, hkind] using h

theorem kind_of_pausing (hauto : s.isAutomatic = true) (h : (s.pausing p).isAutomatic = false) :
    s.kind = some .message := by
  by_contra hkind
  simp [isAutomatic, pausing, isInteractive, hkind] at hauto h
  simp [hauto] at h

theorem isInteractive_of_waits (hplain : s.pause = false) (h : s.isAutomatic = false) :
    s.isInteractive = true := by
  simpa [isAutomatic, hplain] using h

end Step

namespace Workflow

/-- The workflow with the messages paused that `p` selects. -/
def pausing (p : Step → Bool) (w : Workflow) : Workflow :=
  { w with steps := w.steps.map (Step.pausing p) }

variable {w : Workflow} {s : Step} {c : Context} {id : String}

theorem step?_pausing (w : Workflow) (id : String) :
    (w.pausing p).step? id = (w.step? id).map (Step.pausing p) := by
  simp only [step?, pausing, List.find?_map]
  rfl

theorem progress?_pausing (w : Workflow) (id : String) :
    (w.pausing p).progress? id = w.progress? id := by
  have hfilter : (w.pausing p).steps.filter (·.isInteractive) =
      (w.steps.filter (·.isInteractive)).map (Step.pausing p) := by
    rw [pausing, List.filter_map]
    rfl
  simp only [progress?, hfilter, List.findIdx?_map, List.length_map]
  rfl

theorem prompt_pausing (error : Option Reason) :
    (w.pausing p).prompt (s.pausing p) c error = w.prompt s c error := by
  simp only [prompt, progress?_pausing]
  rfl

end Workflow

def Call.withInput (input : String) (q : Call H) : Call H :=
  { q with request := { q.request with rawInput := input } }

/-- Whether answers do not depend on the input of the turn. -/
def Blind (respond : σ → Call H → CallResult × σ) : Prop :=
  ∀ x q input, respond x (q.withInput input) = respond x q

theorem Interaction.Answered.withInput {respond : σ → Call H → CallResult × σ}
    (hblind : Blind respond) {x x' : σ} {log : CallLog H} (h : Answered respond x log x')
    (input : String) :
    Answered respond x (log.map fun entry => ⟨entry.question.withInput input, entry.answer⟩)
      x' := by
  induction h with
  | nil x => exact .nil x
  | cons h hrest ih => exact .cons ((hblind _ _ input).trans h) ih

namespace StepResult

def isPaused : StepResult → Bool
  | .awaitingInput prompt _ => !prompt.expectsInput
  | .validationError _ _ _ => false
  | .serviceError _ _ => false
  | .completed _ _ _ => false

end StepResult

namespace Engine

/-- A turn whose calls are answered from a state and, as long as a paused message ends it, another
turn with the empty input: the results in their order, the context left and the state left. -/
inductive Continued (e : Engine H) (respond : σ → Call H → CallResult × σ) (session : SessionRef) :
    σ → Turn H → List StepResult → Context → σ → Prop
  | last {x x' : σ} {turn : Turn H} {c : Context} {r : StepResult}
      (hturn : run respond x turn = (.ok (c, r), x')) (hr : r.isPaused = false) :
      Continued e respond session x turn [r] c x'
  | more {x y x' : σ} {turn : Turn H} {c c' : Context} {r : StepResult} {rs : List StepResult}
      (hturn : run respond x turn = (.ok (c, r), y)) (hr : r.isPaused = true)
      (hrest : Continued e respond session y (e.processInput c "" session) rs c' x') :
      Continued e respond session x turn (r :: rs) c' x'

theorem Continued.of_after {e : Engine H} {respond : σ → Call H → CallResult × σ}
    {session : SessionRef} {x y x' : σ} {turn turn' : Turn H} {log : CallLog H}
    {rs : List StepResult} {c : Context} (hafter : After turn log turn')
    (hlog : Answered respond x log y) (h : Continued e respond session y turn' rs c x') :
    Continued e respond session x turn rs c x' := by
  have hrun := hafter.run_eq hlog
  cases h with
  | last hturn hr => exact .last (hrun.trans hturn) hr
  | more hturn hr hrest => exact .more (hrun.trans hturn) hr hrest

/-- The engine with other workflows. -/
def serving (e : Engine H) (workflows : List Workflow) : Engine H :=
  { e with registry := { e.registry with workflows } }

def Finish.pausing (p : Step → Bool) : Finish → Finish
  | .waiting s c => .waiting (s.pausing p) c
  | .refused reason s c => .refused reason (s.pausing p) c
  | .failed stepId failure => .failed stepId failure
  | .completed c => .completed c
  | .broken err => .broken err

def Stage.pausing (p : Step → Bool) : Stage → Stage
  | .resuming s c => .resuming (s.pausing p) c
  | .arrived s c => .arrived (s.pausing p) c
  | .heading c d => .heading c d
  | .ended f => .ended (f.pausing p)

/-- The event in the workflow with paused messages, in a turn with some input. -/
def Event.pausing (p : Step → Bool) (input : String) : Event H → Event H
  | .entered s c => .entered (s.pausing p) c
  | .acted call x => .acted (call.withInput input) x
  | .closed call x => .closed (call.withInput input) x

/-- What a turn that ends some way delivers at its end. -/
def Finish.closing (w : Workflow) : Finish → List Prompt
  | .waiting s c => [w.prompt s c none]
  | .refused reason s c => [w.prompt s c (some reason)]
  | .failed _ _ => []
  | .completed c => (w.completionPrompt c.vars).toList
  | .broken _ => []

variable {e : Engine H} {workflows : List Workflow} {w : Workflow} {input input' : String}
  {session : SessionRef}

section Events

variable {events : List (Event H)}

theorem calls_pausing : calls (events.map (Event.pausing p input')) =
    (calls events).map fun entry => ⟨entry.question.withInput input', entry.answer⟩ := by
  rw [calls, calls, List.filterMap_map, List.map_filterMap]
  apply List.filterMap_congr
  intro event _
  cases event with
  | entered s c => rfl
  | acted call x => rfl
  | closed call x => rfl

theorem autoSteps_pausing_le (p : Step → Bool) (input' : String) (events : List (Event H)) :
    autoSteps (events.map (Event.pausing p input')) ≤ autoSteps events := by
  rw [autoSteps, autoSteps, List.countP_map]
  apply List.countP_mono_left
  intro event _ hauto
  cases event with
  | entered s c => exact Step.isAutomatic_of_pausing hauto
  | acted call x => cases hauto
  | closed call x => cases hauto

theorem messages_pausing (hplain : ∀ s c, .entered s c ∈ events → s.pause = false) :
    messages (w.pausing p) (events.map (Event.pausing p input')) = notices w events := by
  rw [messages, notices, List.filterMap_map]
  apply List.filterMap_congr
  intro event hevent
  cases event with
  | entered s c =>
    have hpause := hplain s c hevent
    by_cases hkind : s.kind = some .message
    · have hauto : s.isAutomatic = true := by
        simp [Step.isAutomatic, Step.isInteractive, StepKind.isInteractive, hkind, hpause]
      have hkind' : (s.pausing p).kind = some .message := hkind
      simp [Event.pausing, Event.message?, Event.notice?, hauto, hkind, hkind',
        Workflow.prompt_pausing]
    · simp [Event.pausing, Event.message?, Event.notice?, Step.pausing, hkind]
  | acted call x => rfl
  | closed call x => rfl

end Events

section Walks

variable {s : Step} {c k : Context} {action : Option String} {events : List (Event H)}
  {st st' : Stage} {f : Finish} {budget : Nat} {shown : List Prompt} {snapshot : Context}
  {respond : σ → Call H → CallResult × σ} {x x' : σ}

theorem leaving_pausing (destination : Except Error Destination) :
    (leaving c destination).pausing p = leaving c destination := by
  cases destination with
  | ok d => rfl
  | error err => rfl

theorem Acts.pausing (h : Acts e w input session s c action events st) :
    Acts (e.serving workflows) (w.pausing p) input' session (s.pausing p) c action
      (events.map (Event.pausing p input')) (st.pausing p) := by
  cases h with
  | leaves =>
    rw [leaving_pausing]
    exact .leaves
  | unknown h => exact .unknown h
  | @asks action handler h x =>
    have hsettled : (settled s (w.settle s c x)).pausing p =
        settled (s.pausing p) ((w.pausing p).settle (s.pausing p) c x) := by
      change _ = settled s (w.settle s c x)
      cases w.settle s c x with
      | advance next d => rfl
      | refuse failure => rfl
      | broken err => rfl
    rw [hsettled]
    exact Acts.asks (e := e.serving workflows) (w := w.pausing p) (s := s.pausing p) h x

theorem Move.pausing (h : Move e w input session st events st') (workflows : List Workflow)
    (hinput : (∀ s c, st ≠ .resuming s c) ∨ input' = input)
    (hruns : ∀ s c, st = .arrived s c → s.isAutomatic = true → (s.pausing p).isAutomatic = true) :
    Move (e.serving workflows) (w.pausing p) input' session (st.pausing p)
      (events.map (Event.pausing p input')) (st'.pausing p) := by
  have hwaits : ∀ {s : Step}, s.isAutomatic = false → (s.pausing p).isAutomatic = false := by
    intro s hauto
    by_contra hnot
    rw [Step.isAutomatic_of_pausing (by simpa using hnot)] at hauto
    cases hauto
  cases h with
  | kindless hkind => exact .kindless hkind
  | refused hkind hinteractive hcheck =>
    obtain rfl := hinput.resolve_left fun hnot => hnot _ _ rfl
    exact .refused hkind hinteractive hcheck
  | accepted hkind hinteractive hcheck hacts =>
    obtain rfl := hinput.resolve_left fun hnot => hnot _ _ rfl
    exact .accepted hkind hinteractive hcheck hacts.pausing
  | resumed hkind hinteractive hacts => exact .resumed hkind hinteractive hacts.pausing
  | missing hstep => exact .missing (by rw [Workflow.step?_pausing, hstep]; rfl)
  | entered hstep => exact .entered (by rw [Workflow.step?_pausing, hstep]; rfl)
  | waits hauto => exact .waits (hwaits hauto)
  | stumbles hauto hkind => exact .stumbles (hruns _ _ rfl hauto) hkind
  | runs hauto hkind hacts => exact .runs (hruns _ _ rfl hauto) hkind hacts.pausing
  | completed hhook => exact .completed hhook
  | unhooked hhook h => exact .unhooked hhook h
  | @closed c hook handler hhook h x =>
    have hhooked : Stage.pausing p (.ended (hooked c x)) = .ended (hooked c x) := by
      cases x with
      | error failure => rfl
      | ok report =>
        by_cases hsuccess : report.success = true
        · simp [hooked, hsuccess, Stage.pausing, Finish.pausing]
        · simp [hooked, hsuccess, Stage.pausing, Finish.pausing]
    rw [hhooked]
    exact Move.closed (e := e.serving workflows) (w := w.pausing p) hhook h x

theorem Move.step?_of_entered (h : Move e w input session st events st')
    (hmem : .entered s c ∈ events) : w.step? s.id = some s := by
  have hlength := h.length_le
  obtain ⟨before, since, rfl⟩ := List.append_of_mem hmem
  obtain rfl : before = [] := List.length_eq_zero_iff.1 (by simp at hlength; omega)
  obtain rfl : since = [] := List.length_eq_zero_iff.1 (by simpa using hlength)
  obtain ⟨c₀, id, -, hstep, -, -⟩ := h.of_entered
  exact Workflow.step?_self hstep

theorem locate_pausing (hc : c.StandsAt w s)
    (hget : (e.serving workflows).registry.get? w.id = some (w.pausing p)) :
    locate (e.serving workflows) c = .ok (w.pausing p, s.pausing p) := by
  refine locate_eq_ok_iff.2 ⟨hget, hc.within.workflow, ?_, hc.current⟩
  change (w.pausing p).step? s.id = _
  rw [Workflow.step?_pausing, hc.registered]
  rfl

theorem Move.of_pause (h : Move e w input session (.arrived s c) events st')
    (hauto : s.isAutomatic = true) (hpaused : (s.pausing p).isAutomatic = false) :
    events = [] ∧ st' = leaving c (w.destination s c) := by
  have hkind := Step.kind_of_pausing hauto hpaused
  have hown : s.ownAction = none := by simp [Step.ownAction, hkind]
  cases h with
  | waits hnot => simp [hauto] at hnot
  | stumbles _ hkindless => simp [Workflow.kindOf, hkind] at hkindless
  | runs _ _ hacts =>
    rw [hown] at hacts
    cases hacts with
    | leaves => exact ⟨rfl, rfl⟩

/-- A paused message that a turn comes to ends it, and the next turn, whatever its input, does what
the message would have done without the pause. -/
theorem Continued.of_pause {rs : List StepResult} {c' : Context} (hc : c.StandsAt w s)
    (hget : (e.serving workflows).registry.get? w.id = some (w.pausing p))
    (hauto : s.isAutomatic = true)
    (hpaused : (s.pausing p).isAutomatic = false)
    (h : Continued (e.serving workflows) respond session x
      (rest (e.serving workflows) (w.pausing p) "" session e.limits.maxAutoSteps [] c
        (leaving c (w.destination s c))) rs c' x') :
    Continued (e.serving workflows) respond session x
      (rest (e.serving workflows) (w.pausing p) input session budget shown snapshot
        (.arrived (s.pausing p) c))
      (.awaitingInput (w.prompt s c none) shown :: rs) c' x' := by
  have hkind := Step.kind_of_pausing hauto hpaused
  have hinteractive : s.isInteractive = false := Step.isInteractive_of_isAutomatic hauto
  have hwaits : run respond x (rest (e.serving workflows) (w.pausing p) input session budget shown
      snapshot (.arrived (s.pausing p) c)) =
      (.ok (c, .awaitingInput (w.prompt s c none) shown), x) := by
    have hawaiting : awaiting (e.serving workflows) (s.pausing p) c = c := if_neg (by
      simpa [Step.isInteractive, Step.pausing] using hinteractive)
    simp only [rest, hpaused, Bool.false_eq_true, if_false, run, Finish.result, hawaiting,
      Workflow.prompt_pausing]
  have hresumed : Move (e.serving workflows) (w.pausing p) "" session (.resuming (s.pausing p) c) []
      (leaving c (w.destination s c)) := by
    have hown : (s.pausing p).ownAction = none := by
      simp [Step.ownAction, Step.pausing, hkind]
    have hkindOf : (w.pausing p).kindOf (s.pausing p) = .ok .message := by
      simp [Workflow.kindOf, Step.pausing, hkind]
    exact .resumed hkindOf rfl (hown ▸ .leaves)
  refine .more hwaits (by simp [StepResult.isPaused, Workflow.prompt, hinteractive]) ?_
  rw [processInput_eq_rest (locate_pausing hc hget)]
  exact .of_after (hresumed.after (Nat.zero_le _)) (.nil x) h

/-- A turn that waits or completes its workflow is the last one. -/
theorem Continued.of_finish
    (hf : (∃ s c, f = .waiting s c ∧ s.isInteractive = true) ∨ ∃ c, f = .completed c)
    (k : Context) :
    ∃ last c', Continued (e.serving workflows) respond session x
        (rest (e.serving workflows) (w.pausing p) input session budget shown snapshot
          (.ended (f.pausing p))) [last] c' x ∧
      f.result w [] k = .ok (c', last.silent) ∧
      last.requests =
        shown ++ (Stage.ended (f.pausing p)).pending (w.pausing p) ++ f.closing w := by
  obtain ⟨s, c, rfl, hinteractive⟩ | ⟨c, rfl⟩ := hf
  · have hkind : s.kind ≠ some .message := by
      intro hkind
      simp [Step.isInteractive, StepKind.isInteractive, hkind] at hinteractive
    refine ⟨.awaitingInput (w.prompt s c none) shown, c, .last ?_ ?_, rfl, ?_⟩
    · simp [rest, Finish.pausing, run, Finish.result, Workflow.prompt_pausing]
    · simp [StepResult.isPaused, Workflow.prompt, hinteractive]
    · simp [StepResult.requests, Finish.pausing, Stage.pending, Step.pausing, hkind, Finish.closing]
  · refine ⟨.completed c.vars shown (w.completionPrompt c.vars), c.clear, .last rfl rfl, rfl, ?_⟩
    simp [StepResult.requests, Finish.pausing, Stage.pending, Finish.closing]

/-- A walk that comes to wait or completes its workflow is made in several turns when messages are
paused, by induction on the walk. -/
theorem Walk.continued (h : Walk e w input session st events (.ended f)) (input' : String)
    (budget : Nat) (shown : List Prompt) (snapshot : Context)
    (hplain : ∀ s ∈ w.steps, s.pause = false)
    (hget : (e.serving workflows).registry.get? w.id = some (w.pausing p)) (hblind : Blind respond)
    (hf : (∃ s c, f = .waiting s c ∧ s.isInteractive = true) ∨ ∃ c, f = .completed c)
    (hst : st.Stands w) (hk : k.Within w)
    (hinput : (∀ s c, st ≠ .resuming s c) ∨ input' = input)
    (hbudget : autoSteps events ≤ budget) (hlimit : budget ≤ e.limits.maxAutoSteps)
    (hlog : Answered respond x (calls events) x') :
    ∃ rs last c', Continued (e.serving workflows) respond session x
        (rest (e.serving workflows) (w.pausing p) input' session budget shown snapshot
          (st.pausing p)) (rs ++ [last]) c' x' ∧
      f.result w [] k = .ok (c', last.silent) ∧
      (rs ++ [last]).flatMap StepResult.requests =
        shown ++ (st.pausing p).pending (w.pausing p) ++ notices w events ++ f.closing w := by
  generalize hend : Stage.ended f = st' at h
  -- By induction on the walk, for every budget and snapshot: a pause makes both start afresh.
  induction h generalizing x input' budget shown snapshot k with
  | nil st =>
    subst hend
    cases hlog
    obtain ⟨last, c', hcontinued, hresult, hrequests⟩ := Continued.of_finish hf k
    refine ⟨[], last, c', hcontinued, hresult, ?_⟩
    simpa [Stage.pausing] using hrequests
  | @cons st st₁ st₂ events₁ events₂ hmove hwalk ih =>
    rw [calls_append] at hlog
    obtain ⟨y, hfirst, hlater⟩ := hlog.split
    rw [autoSteps_append] at hbudget
    obtain ⟨hst₁, -⟩ := hmove.stands hst hk
    have hinput₁ : ∀ s c, st₁ ≠ .resuming s c := by
      rintro s c rfl
      exact Move.not_to_resuming hmove
    by_cases hpause : ∃ s c, st = .arrived s c ∧ s.isAutomatic = true ∧
        (s.pausing p).isAutomatic = false
    · -- The turn ends here, and the next one makes the rest of the walk.
      obtain ⟨s, c, rfl, hauto, hpaused⟩ := hpause
      obtain ⟨rfl, rfl⟩ := hmove.of_pause hauto hpaused
      cases hfirst
      obtain ⟨rs, last, c', hcontinued, hresult, hrequests⟩ :=
        ih "" e.limits.maxAutoSteps [] c hst₁ hk (.inl hinput₁) (by omega) (Nat.le_refl _)
          hlater hend
      rw [leaving_pausing] at hcontinued hrequests
      refine ⟨_ :: rs, last, c', Continued.of_pause hst hget hauto hpaused hcontinued, hresult, ?_⟩
      have hpending : (leaving c (w.destination s c)).pending (w.pausing p) = [] := by
        cases w.destination s c with
        | ok d => rfl
        | error err => rfl
      have hkind : (s.pausing p).kind = some .message :=
        Step.kind_of_pausing (s := s) hauto hpaused
      rw [List.cons_append, List.flatMap_cons, hrequests, hpending]
      simp [StepResult.requests, Stage.pausing, Stage.pending, hpaused, hkind,
        Workflow.prompt_pausing]
    · have hruns : ∀ s c, st = .arrived s c → s.isAutomatic = true →
          (s.pausing p).isAutomatic = true := by
        intro s c hst hauto
        by_contra hnot
        exact hpause ⟨s, c, hst, hauto, by simpa using hnot⟩
      have hmove' := hmove.pausing workflows hinput hruns
      have hfewer := autoSteps_pausing_le p input' events₁
      obtain ⟨rs, last, c', hcontinued, hresult, hrequests⟩ :=
        ih input' (budget - autoSteps (events₁.map (Event.pausing p input')))
          (shown ++ notices (w.pausing p) (events₁.map (Event.pausing p input')))
          (held snapshot (events₁.map (Event.pausing p input')))
          hst₁ hk (.inl hinput₁) (by omega) (by omega) hlater hend
      refine ⟨rs, last, c', .of_after (hmove'.after (by omega)) ?_ hcontinued, hresult, ?_⟩
      · rw [calls_pausing]
        exact hfirst.withInput hblind input'
      · have hmessages := hmove'.messages
        rw [messages_pausing fun s c hmem =>
          hplain s (Workflow.step?_mem (hmove.step?_of_entered hmem))] at hmessages
        rw [hrequests, notices_append, List.append_assoc shown, ← hmessages]
        simp

theorem Walk.isInteractive_of_waiting {s' : Step} {c' : Context}
    (h : Walk e w input session (.resuming s c) events (.ended (.waiting s' c')))
    (hplain : s'.pause = false) : s'.isInteractive = true := by
  rcases h.last with ⟨-, hst⟩ | ⟨_, _, _, -, -, hmove⟩
  · cases hst
  · exact Step.isInteractive_of_waits hplain (hmove.of_waiting rfl).2.1

theorem Walk.continued_of_refused {reason : Reason} {s' : Step} {c' : Context}
    (h : Walk e w input session (.resuming s c) events (.ended (.refused reason s' c'))) :
    events = [] ∧ Continued (e.serving workflows) respond session x
      (rest (e.serving workflows) (w.pausing p) input session budget shown snapshot
        (.resuming (s.pausing p) c))
      [.validationError reason (w.prompt s' c' (some reason)) c'.retryCount] c' x := by
  rcases h.last with ⟨-, hst⟩ | ⟨events₁, events₂, st₁, rfl, hwalk, hmove⟩
  · cases hst
  · obtain ⟨rfl, -, c₀, rfl, -⟩ := hmove.of_refused rfl
    rcases hwalk.last with ⟨rfl, hst⟩ | ⟨_, _, _, -, -, hto⟩
    · cases hst
      have hmove' := hmove.pausing (p := p) workflows (.inr rfl) (by simp)
      refine ⟨rfl, .of_after (hmove'.after (Nat.zero_le budget)) (.nil x) (.last ?_ rfl)⟩
      simp [rest, Stage.pausing, Finish.pausing, run, Finish.result, Workflow.prompt_pausing]
    · exact absurd hto Move.not_to_resuming

end Walks

section Turns

variable {c c' : Context} {r : StepResult} {respond : σ → Call H → CallResult × σ} {x x' : σ}

/-- Pausing messages changes only where turns end. Take a registered workflow without pauses, and
the same workflow with any of its messages paused, and actions that do not look at the input. If a
turn of the first on a context that was reached ends without an error, then the same input given to
the second, and the empty input at each paused message, come to the same context, to the same
prompt, completion or refusal, and leave the actions in the same state; and all that the turns
deliver is what the one turn delivers. -/
theorem pausing_turns (hbuilt : e.registry.Built) (hregistered : e.registry.get? w.id = some w)
    (hplain : ∀ s ∈ w.steps, s.pause = false)
    (hget : (e.serving workflows).registry.get? w.id = some (w.pausing p)) (hblind : Blind respond)
    (hreached : e.Reached c) (hc : c.workflowId = some w.id)
    (hturn : run respond x (e.processInput c input session) = (.ok (c', r), x'))
    (hr : r.isFailure = false) :
    ∃ rs last, Continued (e.serving workflows) respond session x
        (processInput (e.serving workflows) c input session) (rs ++ [last]) c' x' ∧
      last.silent = r.silent ∧
      (rs ++ [last]).flatMap StepResult.requests = r.requests := by
  have hwithin : c.Within w := hreached.within hbuilt hregistered hc
  obtain ⟨s, hs⟩ := exists_standsAt hwithin
  obtain ⟨log, hafter, hlog⟩ := exists_answered respond x (e.processInput c input session)
  rw [hturn] at hafter hlog
  rw [processInput_eq_rest (locate_pausing hs hget)]
  obtain ⟨events, f, hwalk, rfl, hbudget, hresult⟩ :=
    ((after_processInput_iff (locate_standsAt hregistered hs)).1 hafter).of_ok
  have hcontinued := fun hf => hwalk.continued input e.limits.maxAutoSteps [] c hplain hget hblind
    hf hs hwithin (.inr rfl) hbudget (Nat.le_refl _) hlog
  -- A turn that fails is excluded, and one that refuses its input has passed no message.
  cases f with
  | waiting s' c₁ =>
    cases hresult
    have hinteractive : s'.isInteractive = true := by
      have hstands : c'.StandsAt w s' := (hwalk.stands hs hwithin).1
      exact hwalk.isInteractive_of_waiting (hplain s' (Workflow.step?_mem hstands.registered))
    obtain ⟨rs, last, c₁, hrest, hlast, hrequests⟩ := hcontinued (.inl ⟨s', c', rfl, hinteractive⟩)
    obtain ⟨rfl, hsilent⟩ := Prod.mk.inj (Except.ok.inj hlast)
    exact ⟨rs, last, hrest, hsilent.symm, hrequests⟩
  | refused reason s' c₁ =>
    cases hresult
    obtain ⟨rfl, hrest⟩ := hwalk.continued_of_refused
    cases hlog
    exact ⟨[], _, hrest, rfl, by simp⟩
  | failed stepId failure =>
    cases hresult
    cases hr
  | completed c₁ =>
    cases hresult
    obtain ⟨rs, last, c₂, hrest, hlast, hrequests⟩ := hcontinued (.inr ⟨_, rfl⟩)
    obtain ⟨rfl, hsilent⟩ := Prod.mk.inj (Except.ok.inj hlast)
    exact ⟨rs, last, hrest, hsilent.symm, hrequests⟩
  | broken err => cases hresult

end Turns

def counting (n : Nat) (_ : Call Unit) : CallResult × Nat := (.ok { success := true }, n + 1)

/-- With the thanks paused, the answer takes two turns, and the number is verified in the second. -/
theorem pausing_turns_courtesy : usher.registry.Built ∧
    (∀ s ∈ courtesy.steps, s.pause = false) ∧ Blind counting ∧ usher.Reached greeted ∧
    run counting 0 (usher.processInput greeted "12" ⟨"user", none⟩) =
      (.ok ({}, .completed thanked.vars [courtesy.prompt courtesy.steps[1] thanked none] none), 1) ∧
    ∃ rs last, Continued (usher.serving [courtesy.pausing fun _ => true]) counting
        ⟨"user", none⟩ 0 (processInput (usher.serving [courtesy.pausing fun _ => true])
          greeted "12" ⟨"user", none⟩) (rs ++ [last]) {} 1 ∧
      last.silent = .completed thanked.vars [] none ∧
      (rs ++ [last]).flatMap StepResult.requests =
        [courtesy.prompt courtesy.steps[1] thanked none] := by
  have hbuilt : usher.registry.Built := Registry.built_singleton (by decide +kernel)
  have hplain : ∀ s ∈ courtesy.steps, s.pause = false := by decide
  have hblind : Blind counting := fun _ _ _ => rfl
  have hstart : After (usher.start "courtesy" ⟨0, 0⟩ ⟨"user", none⟩) []
      (.done (.ok (greeted,
        .awaitingInput (courtesy.prompt courtesy.steps[0] greeted none) []))) := .nil _
  have hreached : usher.Reached greeted := .started (w := courtesy) rfl hstart
  have hturn : run counting 0 (usher.processInput greeted "12" ⟨"user", none⟩) =
      (.ok ({}, .completed thanked.vars [courtesy.prompt courtesy.steps[1] thanked none] none),
        1) := rfl
  exact ⟨hbuilt, hplain, hblind, hreached, hturn,
    pausing_turns hbuilt rfl hplain rfl hblind hreached rfl hturn rfl⟩

end Engine

end Dialogue
