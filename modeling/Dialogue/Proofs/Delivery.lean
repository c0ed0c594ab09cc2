import Dialogue.Proofs.Episodes
import Mathlib.Data.List.Basic
import Mathlib.Data.List.Flatten

namespace Dialogue

open Interaction

variable {H : Type}

namespace StepResult

/-- What a result delivers to be shown, in its order. -/
def requests : StepResult → List Prompt
  | .awaitingInput prompt notices => notices ++ [prompt]
  | .validationError _ prompt _ => [prompt]
  | .serviceError _ _ => []
  | .completed _ notices message => notices ++ message.toList

/-- Whether a call failed. -/
def isFailure : StepResult → Bool
  | .awaitingInput _ _ => false
  | .validationError _ _ _ => false
  | .serviceError _ _ => true
  | .completed _ _ _ => false

end StepResult

namespace Workflow

variable {patterns : PatternReader} {w : Workflow} {s : Step} {c : Context}

/-- Whether what is to be shown is a message step. -/
def showsMessage (w : Workflow) (prompt : Prompt) : Bool :=
  (w.step? prompt.stepId).any (·.kind = some .message)

theorem showsMessage_prompt (hs : w.step? s.id = some s) (error : Option Reason) :
    w.showsMessage (w.prompt s c error) = decide (s.kind = some .message) := by
  simp [showsMessage, prompt, hs]

theorem id_ne_endTarget {seen : List String} {steps : List Step}
    (h : idViolations seen steps = []) : ∀ s ∈ steps, s.id ≠ endTarget := by
  induction steps generalizing seen with
  | nil => simp
  | cons s steps ih =>
    simp only [idViolations, List.append_eq_nil_iff] at h
    obtain ⟨⟨hend, -⟩, hrest⟩ := h
    intro s' hs'
    rcases List.mem_cons.1 hs' with rfl | hs'
    · simpa using hend
    · exact ih hrest s' hs'

theorem step?_endTarget (h : w.violations patterns = []) : w.step? endTarget = none := by
  simp only [violations, List.append_eq_nil_iff] at h
  rw [step?, List.find?_eq_none]
  simpa using id_ne_endTarget h.1.1.2

theorem showsMessage_completionPrompt (h : w.violations patterns = []) (finalData : Record) :
    (w.completionPrompt finalData).toList.filter w.showsMessage = [] := by
  rw [completionPrompt]
  cases w.completionPromptKey with
  | none => rfl
  | some key => simp [showsMessage, step?_endTarget h]

end Workflow

namespace Engine

def Event.message? (w : Workflow) : Event H → Option Prompt
  | .entered s c => if s.kind = some .message then some (w.prompt s c none) else none
  | .acted _ _ => none
  | .closed _ _ => none

def messages (w : Workflow) (events : List (Event H)) : List Prompt :=
  events.filterMap (Event.message? w)

def Stage.pending (w : Workflow) : Stage → List Prompt
  | .resuming _ _ => []
  | .arrived s c =>
    if s.isAutomatic = false ∧ s.kind = some .message then [w.prompt s c none] else []
  | .heading _ _ => []
  | .ended (.waiting s c) => if s.kind = some .message then [w.prompt s c none] else []
  | .ended (.refused _ _ _) => []
  | .ended (.failed _ _) => []
  | .ended (.completed _) => []
  | .ended (.broken _) => []

variable {e : Engine H} {w : Workflow} {input : String} {session : SessionRef}

section Walks

variable {s : Step} {c k : Context} {action : Option String} {events : List (Event H)}
  {st st' : Stage}

theorem messages_append (events events' : List (Event H)) :
    messages w (events ++ events') = messages w events ++ messages w events' :=
  List.filterMap_append

theorem messages_of_entrances (h : entrances events = []) : messages w events = [] := by
  rw [messages, List.filterMap_eq_nil_iff]
  intro event hevent
  have hnone := List.filterMap_eq_nil_iff.1 h event hevent
  cases event with
  | entered s c => cases hnone
  | acted call answer => rfl
  | closed call answer => rfl

theorem Acts.pending (h : Acts e w input session s c action events st) : st.pending w = [] := by
  obtain ⟨vars, d, rfl⟩ | ⟨failure, rfl⟩ | ⟨err, rfl, -⟩ := h.leads
  · rfl
  · rfl
  · rfl

/-- Every message entered becomes a notice, or it is the one that is waited on. -/
theorem Move.messages (h : Move e w input session st events st') :
    st.pending w ++ messages w events = notices w events ++ st'.pending w := by
  -- Where no step is entered there is neither a message nor a notice.
  have hstays : entrances events = [] → st.pending w = st'.pending w →
      st.pending w ++ Engine.messages w events = notices w events ++ st'.pending w := by
    intro hentrances hsame
    rw [messages_of_entrances hentrances, notices_of_entrances w hentrances, List.append_nil,
      List.nil_append, hsame]
  cases h with
  | kindless hkind => exact hstays rfl rfl
  | refused hkind hinteractive hcheck => exact hstays rfl rfl
  | accepted hkind hinteractive hcheck hacts => exact hstays hacts.entrances hacts.pending.symm
  | resumed hkind hinteractive hacts => exact hstays hacts.entrances hacts.pending.symm
  | missing hstep => exact hstays rfl rfl
  | @entered c id s hstep =>
    by_cases hkind : s.kind = some .message
    · by_cases hauto : s.isAutomatic = true
      · simp [Stage.pending, Engine.messages, notices, Event.message?, Event.notice?, hkind, hauto]
      · simp [Stage.pending, Engine.messages, notices, Event.message?, Event.notice?, hkind, hauto]
    · simp [Stage.pending, Engine.messages, notices, Event.message?, Event.notice?, hkind]
  | @waits s c hauto =>
    refine hstays rfl ?_
    by_cases hkind : s.kind = some .message
    · have hnot : s.isInteractive = false := by
        simp [Step.isInteractive, StepKind.isInteractive, hkind]
      simp [Stage.pending, awaiting, hauto, hkind, hnot]
    · simp [Stage.pending, hkind]
  | stumbles hauto hkind => exact hstays rfl (by simp [Stage.pending, hauto])
  | runs hauto hkind hacts =>
    refine hstays hacts.entrances ?_
    rw [hacts.pending]
    simp [Stage.pending, hauto]
  | completed hhook => exact hstays rfl rfl
  | unhooked hhook h => exact hstays rfl rfl
  | closed hhook h x =>
    refine hstays rfl ?_
    cases x with
    | error failure => rfl
    | ok report =>
      by_cases hsuccess : report.success = true
      · simp [hooked, hsuccess, Stage.pending]
      · simp [hooked, hsuccess, Stage.pending]

theorem Walk.messages (h : Walk e w input session st events st') :
    st.pending w ++ messages w events = notices w events ++ st'.pending w := by
  induction h with
  | nil st => simp [Engine.messages]
  | cons hmove hwalk ih =>
    rw [messages_append, notices_append, ← List.append_assoc, hmove.messages, List.append_assoc,
      ih, List.append_assoc]

theorem Walk.showsMessage (h : Walk e w input session st events st') :
    (notices w events).filter w.showsMessage = notices w events := by
  rw [List.filter_eq_self]
  intro prompt hprompt
  obtain ⟨event, hevent, hnotice⟩ := List.mem_filterMap.1 hprompt
  obtain ⟨before, since, hsplit⟩ := List.append_of_mem hevent
  cases event with
  | entered s c =>
    obtain ⟨st₁, st₂, -, hmove, -⟩ := h.split hsplit
    obtain ⟨c₀, id, -, hstep, -, -⟩ := hmove.of_entered
    simp only [Event.notice?] at hnotice
    split at hnotice
    · rename_i hauto
      cases hnotice
      rw [Workflow.showsMessage_prompt (Workflow.step?_self hstep)]
      simpa using hauto.2
    · cases hnotice
  | acted call answer => cases hnotice
  | closed call answer => cases hnotice

theorem Acts.ne_refused {reason : Reason} {s' : Step} {c' : Context}
    (h : Acts e w input session s c action events st) : st ≠ .ended (.refused reason s' c') := by
  obtain ⟨vars, d, rfl⟩ | ⟨failure, rfl⟩ | ⟨err, rfl, -⟩ := h.leads
  · simp
  · simp
  · simp

theorem hooked_ne_refused {reason : Reason} {c' : Context} (x : CallResult) :
    hooked c x ≠ .refused reason s c' := by
  cases x with
  | error failure => simp [hooked]
  | ok report =>
    by_cases hsuccess : report.success = true
    · simp [hooked, hsuccess]
    · simp [hooked, hsuccess]

/-- An input is refused at the step the turn begins on, which asks for one, and one more attempt is
counted there. -/
theorem Move.of_refused {reason : Reason} (h : Move e w input session st events st')
    (hst' : st' = .ended (.refused reason s c)) :
    events = [] ∧ s.isInteractive = true ∧
      ∃ c₀, st = .resuming s c₀ ∧ c = { c₀ with retryCount := c₀.retryCount + 1 } := by
  cases h with
  | refused hkind hinteractive hcheck =>
    cases hst'
    exact ⟨rfl, by rw [Workflow.isInteractive_of_kindOf hkind, hinteractive], _, rfl, rfl⟩
  | accepted hkind hinteractive hcheck hacts => exact absurd hst' hacts.ne_refused
  | resumed hkind hinteractive hacts => exact absurd hst' hacts.ne_refused
  | runs hauto hkind hacts => exact absurd hst' hacts.ne_refused
  | closed hhook h x => exact absurd (Stage.ended.inj hst') (hooked_ne_refused x)
  | _ => cases hst'

/-- A turn comes to wait at a step that it has just entered and that does not run by itself. -/
theorem Move.of_waiting (h : Move e w input session st events st')
    (hst' : st' = .ended (.waiting s c)) : events = [] ∧ s.isAutomatic = false ∧
      ∃ c₀, st = .arrived s c₀ ∧ c = e.awaiting s c₀ := by
  have hacts : ∀ {s₀ c₀ action}, ¬ Acts e w input session s₀ c₀ action events st' := by
    intro s₀ c₀ action hacts
    obtain ⟨vars, d, rfl⟩ | ⟨failure, rfl⟩ | ⟨err, rfl, -⟩ := hacts.leads
    · cases hst'
    · cases hst'
    · cases hst'
  cases h with
  | waits hauto =>
    cases hst'
    exact ⟨rfl, hauto, _, rfl, rfl⟩
  | accepted hkind hinteractive hcheck h => exact (hacts h).elim
  | resumed hkind hinteractive h => exact (hacts h).elim
  | runs hauto hkind h => exact (hacts h).elim
  | closed hhook h x =>
    cases x with
    | error failure => simp [hooked] at hst'
    | ok report =>
      by_cases hsuccess : report.success = true
      · simp [hooked, hsuccess] at hst'
      · simp [hooked, hsuccess] at hst'
  | _ => cases hst'

theorem Walk.of_refused {reason : Reason}
    (h : Walk e w input session st events (.ended (.refused reason s c)))
    (hopen : ∀ f, st ≠ .ended f) : events = [] ∧ s.isInteractive = true ∧
      ∃ c₀, st = .resuming s c₀ ∧ c = { c₀ with retryCount := c₀.retryCount + 1 } := by
  rcases h.last with ⟨-, hst⟩ | ⟨events₁, events₂, st₁, rfl, hwalk, hmove⟩
  · exact absurd hst.symm (hopen _)
  · obtain ⟨rfl, hinteractive, c₀, rfl, hc⟩ := hmove.of_refused rfl
    rcases hwalk.last with ⟨rfl, hst⟩ | ⟨_, _, _, -, -, hto⟩
    · exact ⟨rfl, hinteractive, c₀, hst.symm, hc⟩
    · exact absurd hto Move.not_to_resuming

end Walks

section Turns

variable {c c' k : Context} {st : Stage} {budget : Nat} {log : CallLog H}
  {events : List (Event H)} {r : StepResult}

/-- A turn delivers the messages it entered, unless a call failed. -/
theorem Happened.delivers (h : e.Happened w input session st log events)
    (hends : Ends e w input session budget [] k st log (.ok (c', r)))
    (hnone : w.violations e.patterns = []) (hst : st.Stands w) (hk : k.Within w)
    (hpending : st.pending w = []) (hopen : ∀ f, st ≠ .ended f) :
    r.requests.filter w.showsMessage = if r.isFailure then [] else messages w events := by
  obtain ⟨f, hwalk, hresult⟩ := h.result hends
  have hmessages := hwalk.messages
  have hfinish := (hwalk.stands hst hk).1
  have hnotices := hwalk.showsMessage
  rw [hpending, List.nil_append] at hmessages
  -- What is not shown as a notice is pending where the walk ends, and shown by its prompt.
  cases f with
  | waiting s c =>
    cases hresult
    have hc : c'.StandsAt w s := hfinish
    have hprompt : [w.prompt s c' none].filter w.showsMessage =
        Stage.pending w (.ended (.waiting s c')) := by
      by_cases hkind : s.kind = some .message
      · simp [Stage.pending, Workflow.showsMessage_prompt hc.registered, hkind]
      · simp [Stage.pending, Workflow.showsMessage_prompt hc.registered, hkind]
    rw [StepResult.requests, List.filter_append, hnotices, hprompt, hmessages]
    rfl
  | refused reason s c =>
    cases hresult
    have hc : c'.StandsAt w s := hfinish
    obtain ⟨rfl, hinteractive, -⟩ := hwalk.of_refused hopen
    have hkind : s.kind ≠ some .message := by
      intro hkind
      simp [Step.isInteractive, StepKind.isInteractive, hkind] at hinteractive
    simp [StepResult.requests, StepResult.isFailure, Workflow.showsMessage_prompt hc.registered,
      hkind, Engine.messages]
  | failed stepId failure =>
    cases hresult
    rfl
  | completed c =>
    cases hresult
    rw [StepResult.requests, List.filter_append, hnotices,
      Workflow.showsMessage_completionPrompt hnone, hmessages]
    rfl
  | broken err => cases hresult

end Turns

namespace Episode

/-- What an episode delivers to be shown. -/
def requests : Episode H → List Prompt
  | .turn _ _ _ r => r.requests
  | .back _ (.moved prompt) => [prompt]
  | .back _ .notAllowed => []

def passed (w : Workflow) : Episode H → List Prompt
  | .turn _ events _ _ => messages w events
  | .back _ _ => []

/-- Whether an episode is a turn in which a call failed. -/
def isFailure : Episode H → Bool
  | .turn _ _ _ r => r.isFailure
  | .back _ _ => false

def isTurn : Episode H → Bool
  | .turn _ _ _ _ => true
  | .back _ _ => false

end Episode

section Runs

variable {run : List (Episode H)} {c : Context} {episode : Episode H}

theorem Plays.delivers (h : e.Plays w run c) (hbuilt : e.registry.Built) (hmem : episode ∈ run)
    (hturn : episode.isTurn = true) :
    episode.requests.filter w.showsMessage =
      if episode.isFailure then [] else episode.passed w := by
  have hget := (h.ready hbuilt).1
  have hmember := List.mem_of_find?_eq_some hget
  have hnone := hbuilt.violations w hmember
  -- The episode is the last one of the run, or one of the run before.
  induction h with
  | @start id now session log c r events hget' hdone hevents =>
    obtain rfl := List.mem_singleton.1 hmem
    obtain ⟨s, hs⟩ := Option.isSome_iff_exists.1 (hbuilt.sound w hmember).start
    have hstart := Context.start_within now hs
    exact hevents.delivers ((after_start_iff hget').1 hdone) hnone hstart hstart rfl (by simp)
  | @input run c c' s input session log r events hrun hlocate hdone hevents ih =>
    rcases List.mem_append.1 hmem with hmem | hmem
    · exact ih hmem
    · obtain rfl := List.mem_singleton.1 hmem
      obtain ⟨-, hidle | hwithin⟩ := hrun.ready hbuilt
      · exact absurd hidle (workflowId_ne_none_of_processInput hdone)
      · obtain ⟨-, -, hregistered, hcurrent⟩ := locate_eq_ok_iff.1 hlocate
        have hs : c.StandsAt w s := ⟨hwithin, hregistered, hcurrent⟩
        exact hevents.delivers ((after_processInput_iff hlocate).1 hdone) hnone hs hwithin rfl
          (by simp)
  | @back run c c' navigation hrun hback ih =>
    rcases List.mem_append.1 hmem with hmem | hmem
    · exact ih hmem
    · obtain rfl := List.mem_singleton.1 hmem
      cases hturn

/-- Leaving some parts out changes nothing only if they are empty. -/
theorem flatMap_skip_eq_iff {α β : Type} {skip : α → Bool} {f : α → List β} {l : List α} :
    (l.flatMap fun a => if skip a then [] else f a) = l.flatMap f ↔
      ∀ a ∈ l, skip a = true → f a = [] := by
  induction l with
  | nil => simp
  | cons a l ih =>
    have hfewer : (l.flatMap fun a => if skip a then [] else f a).length ≤
        (l.flatMap f).length := by
      apply List.Sublist.length_le
      apply List.Sublist.flatMap_right
      intro b _
      split
      · exact List.nil_sublist _
      · exact List.Sublist.refl _
    rw [List.flatMap_cons, List.flatMap_cons, List.forall_mem_cons]
    by_cases hskip : skip a = true
    · simp only [hskip, if_true, List.nil_append, true_implies]
      constructor
      · intro h
        have hlength := congrArg List.length h
        rw [List.length_append] at hlength
        have hnil : f a = [] := List.length_eq_zero_iff.1 (by omega)
        rw [hnil, List.nil_append] at h
        exact ⟨hnil, ih.1 h⟩
      · rintro ⟨hnil, hrest⟩
        rw [hnil, List.nil_append]
        exact ih.2 hrest
    · simpa [hskip] using ih

/-- The messages that a run of turns delivers are those passed in the turns without a failed call,
each once and in the order passed. So none is lost or repeated exactly when no turn with a failed
call passed one. -/
theorem Plays.messages_delivered (h : e.Plays w run c) (hbuilt : e.registry.Built)
    (hturns : ∀ episode ∈ run, episode.isTurn = true) :
    (run.flatMap Episode.requests).filter w.showsMessage =
        (run.flatMap fun episode => if episode.isFailure then [] else episode.passed w) ∧
      ((run.flatMap Episode.requests).filter w.showsMessage = run.flatMap (Episode.passed w) ↔
        ∀ episode ∈ run, episode.isFailure = true → episode.passed w = []) := by
  have hdelivered : (run.flatMap Episode.requests).filter w.showsMessage =
      run.flatMap fun episode => if episode.isFailure then [] else episode.passed w := by
    rw [List.filter_flatMap]
    apply List.flatMap_congr
    intro episode hmem
    exact h.delivers hbuilt hmem (hturns episode hmem)
  exact ⟨hdelivered, by rw [hdelivered, flatMap_skip_eq_iff]⟩

end Runs

def courtesy : Workflow where
  id := "courtesy"
  startStepId := "number"
  steps := [
    { id := "number", kind := some .input, next := some (.fixed "thanks") },
    { id := "thanks", kind := some .message, next := some (.fixed "verify") },
    { id := "verify", kind := some .service, action := some "verify" }]

def usher : Engine Unit where
  registry := ⟨[courtesy]⟩
  actions := { shared := [("verify", ())] }

def greeted : Context where
  workflowId := some "courtesy"
  currentStepId := some "number"
  history := ["number"]
  startedAt := some ⟨0, 0⟩

def thanked : Context :=
  { greeted with
    currentStepId := some "thanks"
    vars := [("number", .text (Text.trim "12"))] }

def atVerification : Context := { thanked with currentStepId := some "verify" }

def verified (input : String) (x : CallResult) : Entry (fun _ : Call Unit => CallResult) :=
  ⟨⟨(), ⟨"courtesy", "verify", [], thanked.vars, input, ⟨"user", none⟩⟩⟩, x⟩

def secondTry : List (Episode Unit) := [
  .turn none [.entered courtesy.steps[0] { greeted with history := [] }] greeted
    (.awaitingInput (courtesy.prompt courtesy.steps[0] greeted none) []),
  .turn (some (courtesy.steps[0], "12"))
    [.entered courtesy.steps[1] thanked, .entered courtesy.steps[2] atVerification,
      .acted (verified "12" (.error .timeout)).question (.error .timeout)]
    atVerification (.serviceError "verify" .timeout),
  .turn (some (courtesy.steps[2], ""))
    [.acted (verified "" (.ok { success := true })).question (.ok { success := true })] {}
    (.completed thanked.vars [] none)]

/-- The thanks are passed and never shown. -/
theorem messages_delivered_secondTry : usher.registry.Built ∧ usher.Plays courtesy secondTry {} ∧
    (∀ episode ∈ secondTry, episode.isTurn = true) ∧
    (secondTry.flatMap Episode.requests).filter courtesy.showsMessage = [] ∧
    secondTry.flatMap (Episode.passed courtesy) =
      [courtesy.prompt courtesy.steps[1] thanked none] := by
  have hbuilt : usher.registry.Built := Registry.built_singleton (by decide +kernel)
  have hstart : usher.Plays courtesy [secondTry[0]] greeted := by
    have hdone : After (usher.start "courtesy" ⟨0, 0⟩ ⟨"user", none⟩) []
        (.done (.ok (greeted,
          .awaitingInput (courtesy.prompt courtesy.steps[0] greeted none) []))) := .nil _
    refine .start rfl hdone ⟨rfl, .waiting courtesy.steps[0] greeted, ?_⟩
    exact (Walk.nil _).snoc (.entered rfl) |>.snoc (.waits rfl)
  have hfailed : usher.Plays courtesy [secondTry[0], secondTry[1]] atVerification := by
    have hdone : After (usher.processInput greeted "12" ⟨"user", none⟩)
        [verified "12" (.error .timeout)]
        (.done (.ok (atVerification, .serviceError "verify" .timeout))) := .cons _ (.nil _)
    refine hstart.input rfl hdone ⟨rfl, .failed "verify" .timeout, ?_⟩
    have hanswered : Move usher courtesy "12" ⟨"user", none⟩
        (.resuming courtesy.steps[0] greeted) []
        (.heading { thanked with currentStepId := some "number" } (.step "thanks")) :=
      .accepted rfl rfl rfl .leaves
    have hentered : Move usher courtesy "12" ⟨"user", none⟩
        (.heading { thanked with currentStepId := some "number" } (.step "thanks"))
        [.entered courtesy.steps[1] thanked] (.arrived courtesy.steps[1] thanked) := .entered rfl
    have hshown : Move usher courtesy "12" ⟨"user", none⟩ (.arrived courtesy.steps[1] thanked) []
        (.heading thanked (.step "verify")) := .runs rfl rfl .leaves
    have hmoved : Move usher courtesy "12" ⟨"user", none⟩ (.heading thanked (.step "verify"))
        [.entered courtesy.steps[2] atVerification] (.arrived courtesy.steps[2] atVerification) :=
      .entered rfl
    have hacted : Move usher courtesy "12" ⟨"user", none⟩
        (.arrived courtesy.steps[2] atVerification)
        [.acted (verified "12" (.error .timeout)).question (.error .timeout)]
        (.ended (.failed "verify" .timeout)) := .runs rfl rfl (.asks rfl _)
    exact (Walk.nil _).snoc hanswered |>.snoc hentered |>.snoc hshown |>.snoc hmoved |>.snoc hacted
  have hrun : usher.Plays courtesy secondTry {} := by
    have hdone : After (usher.processInput atVerification "" ⟨"user", none⟩)
        [verified "" (.ok { success := true })]
        (.done (.ok ({}, .completed thanked.vars [] none))) := .cons _ (.nil _)
    refine hfailed.input rfl hdone ⟨rfl, .completed atVerification, ?_⟩
    have hacted : Move usher courtesy "" ⟨"user", none⟩ (.resuming courtesy.steps[2] atVerification)
        [.acted (verified "" (.ok { success := true })).question (.ok { success := true })]
        (.heading atVerification .finish) := .resumed rfl rfl (.asks rfl _)
    exact (Walk.nil _).snoc hacted |>.snoc (.completed rfl)
  have hturns : ∀ episode ∈ secondTry, episode.isTurn = true := by simp [secondTry, Episode.isTurn]
  exact ⟨hbuilt, hrun, hturns, (hrun.messages_delivered hbuilt hturns).1, rfl⟩

end Engine

end Dialogue
