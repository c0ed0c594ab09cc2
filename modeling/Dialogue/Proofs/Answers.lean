import Dialogue.Proofs.Episodes

namespace Dialogue

open Interaction

variable {H : Type}

namespace Record

/-- Data without a name leaves what a record has under it. -/
theorem get?_merge_of_none {data : Record} {name : String} (h : data.get? name = none)
    (r : Record) : (r.merge data).get? name = r.get? name := by
  induction data generalizing r with
  | nil => rfl
  | cons field data ih =>
    obtain ⟨k, v⟩ := field
    simp only [get?] at h
    split at h
    · cases h
    · rename_i hne
      have hrest := ih h (r.insert k v)
      rw [get?_insert, if_neg hne] at hrest
      exact hrest

end Record

/-- Whether the answer of an action gives data of a name. -/
def Tells (name : String) (answer : CallResult) : Prop :=
  ∃ report data, answer = .ok report ∧ report.data = some data ∧ (Record.get? data name).isSome

theorem get?_data_of_not_tells {name : String} {report : Report} (h : ¬ Tells name (.ok report)) :
    Record.get? (report.data.getD []) name = none := by
  cases hdata : report.data with
  | none => rfl
  | some data =>
    rw [Option.getD_some]
    by_contra hsome
    exact h ⟨report, data, rfl, hdata, Option.isSome_iff_ne_none.2 hsome⟩

namespace Workflow

variable {w : Workflow} {s : Step} {c next : Context} {d : Destination} {name : String}

theorem error_of_recover {failure : CallFailure} {data : Option Record}
    (h : w.recover s c failure data = .advance next d)
    (hdata : Record.get? (data.getD []) "error" = none) :
    next.vars.get? "error" = some (.text failure.code) := by
  simp only [recover, hdata] at h
  cases honError : s.onError with
  | none => simp [honError] at h
  | some t =>
    simp only [honError, Option.isSome_none, Bool.false_eq_true, if_false] at h
    cases hresolve : t.resolve ((c.merge (data.getD [])).set "error" (.text failure.code)).vars with
    | none => simp [hresolve] at h
    | some d' =>
      simp only [hresolve] at h
      cases h
      simp [Context.set, Record.get?_insert]

/-- After a call that leads on, `error` is what the call left there: nothing, or the code of its
failure. -/
theorem error_of_settle {x : CallResult} (h : w.settle s c x = .advance next d)
    (htells : ¬ Tells "error" x) : next.vars.get? "error" = none ∨
      ∃ failure : CallFailure, next.vars.get? "error" = some (.text failure.code) := by
  cases x with
  | error failure => exact .inr ⟨failure, error_of_recover h rfl⟩
  | ok report =>
    have hdata := get?_data_of_not_tells htells
    simp only [settle] at h
    split at h
    · left
      have hcleared : (Context.merge { c with vars := c.vars.erase "error" }
          (report.data.getD [])).vars.get? "error" = none := by
        rw [Context.merge, Record.get?_merge_of_none hdata, Record.get?_erase, if_pos rfl]
      cases hoverride : report.nextStepOverride with
      | some target =>
        simp only [hoverride] at h
        cases h
        exact hcleared
      | none =>
        cases hdestination : w.destination s (Context.merge
            { c with vars := c.vars.erase "error" } (report.data.getD [])) with
        | error err => simp [hoverride, hdestination] at h
        | ok d' =>
          simp only [hoverride, hdestination] at h
          cases h
          exact hcleared
    · exact .inr ⟨report.failure, error_of_recover h hdata⟩

theorem get?_of_recover {failure : CallFailure} {data : Option Record}
    (h : w.recover s c failure data = .advance next d) (herror : name ≠ "error")
    (hdata : Record.get? (data.getD []) name = none) : next.vars.get? name = c.vars.get? name := by
  simp only [recover] at h
  cases honError : s.onError with
  | none => simp [honError] at h
  | some t =>
    simp only [honError] at h
    generalize hnext : (if ((data.getD []).get? "error").isSome then c.merge (data.getD [])
      else (c.merge (data.getD [])).set "error" (.text failure.code)) = next' at h
    have hkept : next'.vars.get? name = c.vars.get? name := by
      subst hnext
      split
      · exact Record.get?_merge_of_none hdata _
      · simp only [Context.set, Record.get?_insert, if_neg herror]
        exact Record.get?_merge_of_none hdata _
    cases hresolve : t.resolve next'.vars with
    | none => simp [hresolve] at h
    | some d' =>
      simp only [hresolve] at h
      cases h
      exact hkept

/-- The answer to an action changes the variables it gives data for, and `error`. -/
theorem get?_of_settle {x : CallResult} (h : w.settle s c x = .advance next d)
    (herror : name ≠ "error") (htells : ¬ Tells name x) :
    next.vars.get? name = c.vars.get? name := by
  cases x with
  | error failure => exact get?_of_recover h herror rfl
  | ok report =>
    have hdata := get?_data_of_not_tells htells
    simp only [settle] at h
    split at h
    · generalize hmerged : Context.merge { c with vars := c.vars.erase "error" }
        (report.data.getD []) = merged at h
      have hkept : merged.vars.get? name = c.vars.get? name := by
        subst hmerged
        rw [Context.merge, Record.get?_merge_of_none hdata, Record.get?_erase, if_neg herror]
      cases hoverride : report.nextStepOverride with
      | some target =>
        simp only [hoverride] at h
        cases h
        exact hkept
      | none =>
        cases hdestination : w.destination s merged with
        | error err => simp [hoverride, hdestination] at h
        | ok d' =>
          simp only [hoverride, hdestination] at h
          cases h
          exact hkept
    · exact get?_of_recover h herror hdata

end Workflow

namespace Step

/-- The value that a step takes an input for, if it asks for one and accepts it. -/
def accepted? (patterns : PatternReader) (s : Step) (input : String) : Option Value :=
  s.kind.bind fun kind =>
    if kind.isInteractive then (s.check patterns kind input).toOption else none

/-- The variables once a step has taken an input. -/
def taken (patterns : PatternReader) (s : Step) (input : String) (vars : Record) : Record :=
  match s.accepted? patterns input with
  | some value => vars.insert s.id value
  | none => vars

end Step

namespace Engine

/-- Whether an event writes the variable of a name: an action gives data for it, or it is `error`
and the action of a step was called. -/
def Event.Writes (name : String) : Event H → Prop
  | .entered _ _ => False
  | .acted _ answer => Tells name answer ∨ name = "error"
  | .closed _ answer => Tells name answer

/-- The variables at a stage; none if the turn went back or broke down. -/
def Stage.vars? (patterns : PatternReader) (input : String) : Stage → Option Record
  | .resuming s c => some (s.taken patterns input c.vars)
  | .arrived _ c => some c.vars
  | .heading c _ => some c.vars
  | .ended (.waiting _ c) => some c.vars
  | .ended (.refused _ _ c) => some c.vars
  | .ended (.failed _ _) => none
  | .ended (.completed c) => some c.vars
  | .ended (.broken _) => none

def Stage.Holds (patterns : PatternReader) (input name : String) (v : Value) (st : Stage) : Prop :=
  ∀ vars ∈ st.vars? patterns input, vars.get? name = some v

variable {e : Engine H} {w : Workflow} {input : String} {session : SessionRef}

section Walks

variable {s : Step} {c k : Context} {action : Option String} {events : List (Event H)}
  {st st' : Stage} {name : String} {v : Value}

theorem Acts.holds (h : Acts e w input session s c action events st)
    (hunwritten : ∀ event ∈ events, ¬ event.Writes name) (hc : c.vars.get? name = some v) :
    st.Holds e.patterns input name v := by
  cases h with
  | leaves =>
    cases w.destination s c with
    | ok d => simpa [leaving, Stage.Holds, Stage.vars?] using hc
    | error err => simp [leaving, Stage.Holds, Stage.vars?]
  | unknown h => simp [Stage.Holds, Stage.vars?]
  | asks h x =>
    have hwrites := hunwritten _ (List.mem_singleton_self _)
    simp only [Event.Writes, not_or] at hwrites
    cases hsettle : w.settle s c x with
    | advance next d =>
      have hnext := Workflow.get?_of_settle hsettle hwrites.2 hwrites.1
      simpa [settled, Stage.Holds, Stage.vars?, hnext] using hc
    | refuse failure => simp [settled, Stage.Holds, Stage.vars?]
    | broken err => simp [settled, Stage.Holds, Stage.vars?]

theorem Step.taken_of_not_interactive (h : s.isInteractive = false) (vars : Record) :
    s.taken e.patterns input vars = vars := by
  have hnone : s.accepted? e.patterns input = none := by
    cases hkind : s.kind with
    | none => simp [Step.accepted?, hkind]
    | some kind =>
      have hnot : kind.isInteractive = false := by simpa [Step.isInteractive, hkind] using h
      simp [Step.accepted?, hkind, hnot]
  simp [Step.taken, hnone]

theorem accepted?_of_kindOf {kind : StepKind} (hkind : w.kindOf s = .ok kind)
    (hinteractive : kind.isInteractive = true) :
    s.accepted? e.patterns input = (s.check e.patterns kind input).toOption := by
  simp only [Workflow.kindOf] at hkind
  split at hkind
  · rename_i hsome
    cases hkind
    simp [Step.accepted?, hsome, hinteractive]
  · cases hkind

/-- A move keeps what it does not write, also in the contexts it enters steps with. -/
theorem Move.holds (h : Move e w input session st events st')
    (hunwritten : ∀ event ∈ events, ¬ event.Writes name) (hst : st.Holds e.patterns input name v) :
    st'.Holds e.patterns input name v ∧ ∀ c ∈ entrances events, c.vars.get? name = some v := by
  -- At the beginning of a turn the variables already count the input, so taking it changes nothing.
  cases h with
  | kindless hkind => exact ⟨by simp [Stage.Holds, Stage.vars?], by simp [entrances]⟩
  | @refused s c kind reason hkind hinteractive hcheck =>
    refine ⟨?_, by simp [entrances]⟩
    have hnone : s.accepted? e.patterns input = none := by
      rw [accepted?_of_kindOf hkind hinteractive, hcheck]
      rfl
    simpa [Stage.Holds, Stage.vars?, Step.taken, hnone] using hst
  | @accepted s c kind value events st hkind hinteractive hcheck hacts =>
    have hsome : s.accepted? e.patterns input = some value := by
      rw [accepted?_of_kindOf hkind hinteractive, hcheck]
      rfl
    have hc : (c.vars.insert s.id value).get? name = some v := by
      simpa [Stage.Holds, Stage.vars?, Step.taken, hsome] using hst
    exact ⟨hacts.holds hunwritten hc, by simp [hacts.entrances]⟩
  | @resumed s c kind events st hkind hinteractive hacts =>
    have hnot : s.isInteractive = false := by
      rw [Workflow.isInteractive_of_kindOf hkind, hinteractive]
    have hc : c.vars.get? name = some v := by
      simpa [Stage.Holds, Stage.vars?, Step.taken_of_not_interactive hnot] using hst
    exact ⟨hacts.holds hunwritten hc, by simp [hacts.entrances]⟩
  | missing hstep => exact ⟨by simp [Stage.Holds, Stage.vars?], by simp [entrances]⟩
  | @entered c id s hstep =>
    have hc : c.vars.get? name = some v := by simpa [Stage.Holds, Stage.vars?] using hst
    have hmoved : (c.moveTo s.id).vars.get? name = some v := hc
    refine ⟨?_, ?_⟩
    · simpa [Stage.Holds, Stage.vars?] using hmoved
    · simpa [entrances, Event.entrance?] using hmoved
  | @waits s c hauto =>
    refine ⟨?_, by simp [entrances]⟩
    have hsame : (e.awaiting s c).vars = c.vars := by
      simp only [awaiting]
      split
      · rfl
      · rfl
    simpa [Stage.Holds, Stage.vars?, hsame] using hst
  | stumbles hauto hkind => exact ⟨by simp [Stage.Holds, Stage.vars?], by simp [entrances]⟩
  | @runs s c kind events st hauto hkind hacts =>
    have hc : c.vars.get? name = some v := by simpa [Stage.Holds, Stage.vars?] using hst
    exact ⟨hacts.holds hunwritten hc, by simp [hacts.entrances]⟩
  | @completed c hhook =>
    exact ⟨by simpa [Stage.Holds, Stage.vars?] using hst, by simp [entrances]⟩
  | unhooked hhook h => exact ⟨by simp [Stage.Holds, Stage.vars?], by simp [entrances]⟩
  | @closed c hook handler hhook h x =>
    refine ⟨?_, by simp [entrances, Event.entrance?]⟩
    have htells : ¬ Tells name x := hunwritten _ (List.mem_singleton_self _)
    have hc : c.vars.get? name = some v := by simpa [Stage.Holds, Stage.vars?] using hst
    cases x with
    | error failure => simp [hooked, Stage.Holds, Stage.vars?]
    | ok report =>
      by_cases hsuccess : report.success = true
      · have hmerged := Record.get?_merge_of_none (get?_data_of_not_tells htells) c.vars
        simpa [hooked, hsuccess, Stage.Holds, Stage.vars?, Context.merge, hmerged] using hc
      · simp [hooked, hsuccess, Stage.Holds, Stage.vars?]

theorem Walk.holds (h : Walk e w input session st events st')
    (hunwritten : ∀ event ∈ events, ¬ event.Writes name) (hst : st.Holds e.patterns input name v) :
    st'.Holds e.patterns input name v ∧ ∀ c ∈ entrances events, c.vars.get? name = some v := by
  induction h with
  | nil st => exact ⟨hst, by simp [entrances]⟩
  | cons hmove hwalk ih =>
    obtain ⟨hfirst, hrest⟩ := List.forall_mem_append.1 hunwritten
    obtain ⟨hst₁, hentered⟩ := hmove.holds hfirst hst
    obtain ⟨hst₂, hentered'⟩ := ih hrest hst₁
    rw [entrances_append]
    exact ⟨hst₂, List.forall_mem_append.2 ⟨hentered, hentered'⟩⟩

theorem held_mem (h : entrances events ≠ []) : held k events ∈ entrances events := by
  rw [held, List.getLastD_eq_getLast?]
  obtain ⟨c, hc⟩ := Option.ne_none_iff_exists'.1 (mt List.getLast?_eq_none_iff.1 h)
  rw [hc]
  exact List.mem_of_getLast? hc

theorem Walk.of_ended {f : Finish} (h : Walk e w input session (.ended f) events st') :
    st' = .ended f := by
  cases h with
  | nil => rfl
  | cons hmove hwalk => cases hmove

/-- After it has entered a step, a turn has a call fail at an automatic one. -/
theorem Walk.failed_at_entered {stepId : String} {failure : CallFailure}
    (h : Walk e w input session st events (.ended (.failed stepId failure)))
    (hentrances : entrances events ≠ []) :
    ∃ s', w.step? stepId = some s' ∧ s'.isAutomatic = true := by
  obtain ⟨before, s', c', since, hevents, hsince⟩ := exists_last_entered hentrances
  obtain ⟨st₁, st₂, -, hmove, hrest⟩ := h.split hevents
  obtain ⟨c₀, id, rfl, hstep, rfl, rfl⟩ := hmove.of_entered
  have hself := Workflow.step?_self hstep
  have hthere : (c₀.moveTo s'.id).IsAt c₀.workflowId s'.id := ⟨rfl, rfl⟩
  obtain ⟨id', hid', hat⟩ := hrest.isAt ⟨rfl, hthere⟩ hthere
  rw [held_of_entrances _ hsince] at hat
  obtain rfl : stepId = id' := hid'
  obtain rfl : stepId = s'.id := Option.some.inj (hat.2.symm.trans rfl)
  refine ⟨s', hself, ?_⟩
  cases hrest with
  | cons hfirst hmore =>
    cases hfirst with
    | waits hauto => cases hmore.of_ended
    | stumbles hauto hkind => exact hauto
    | runs hauto hkind hacts => exact hauto

/-- A call fails at the step the turn began on, or at an automatic step it entered. -/
theorem Walk.failed_at {stepId : String} {failure : CallFailure}
    (h : Walk e w input session (.resuming s c) events (.ended (.failed stepId failure)))
    (hcurrent : c.currentStepId = some s.id) :
    entrances events = [] ∧ stepId = s.id ∨
      entrances events ≠ [] ∧ ∃ s', w.step? stepId = some s' ∧ s'.isAutomatic = true := by
  by_cases hentrances : entrances events = []
  · left
    have hthere : c.IsAt c.workflowId s.id := ⟨rfl, hcurrent⟩
    obtain ⟨id, hid, hat⟩ := h.isAt ⟨rfl, hthere⟩ hthere
    rw [held_of_entrances c hentrances] at hat
    obtain rfl : stepId = id := hid
    exact ⟨hentrances, Option.some.inj (hat.2.symm.trans hcurrent)⟩
  · exact .inr ⟨hentrances, h.failed_at_entered hentrances⟩

end Walks

section Turns

variable {c c' k : Context} {s : Step} {st : Stage} {budget : Nat} {log : CallLog H}
  {events : List (Event H)} {r : StepResult} {name : String} {v : Value}

/-- The variables that a result leaves with its context, or hands over at the end. -/
def varsLeft (c : Context) : StepResult → Record
  | .awaitingInput _ _ => c.vars
  | .validationError _ _ _ => c.vars
  | .serviceError _ _ => c.vars
  | .completed finalData _ _ => finalData

/-- Whether a result is a service error at a step. -/
def failsAt (stepId : String) : StepResult → Bool
  | .awaitingInput _ _ => false
  | .validationError _ _ _ => false
  | .serviceError id _ => id = stepId
  | .completed _ _ _ => false

/-- A turn keeps what it does not write, unless a failed call undoes it. -/
theorem Happened.keeps (h : e.Happened w input session st log events)
    (hends : Ends e w input session budget [] k st log (.ok (c', r)))
    (hunwritten : ∀ event ∈ events, ¬ event.Writes name) (hst : st.Holds e.patterns input name v)
    (hundone : ∀ stepId failure, r = .serviceError stepId failure →
      Walk e w input session st events (.ended (.failed stepId failure)) →
      entrances events = [] → k.vars.get? name = some v) :
    (varsLeft c' r).get? name = some v := by
  obtain ⟨f, hwalk, hresult⟩ := h.result hends
  obtain ⟨hfinish, hentered⟩ := hwalk.holds hunwritten hst
  cases f with
  | waiting s c =>
    cases hresult
    simpa [Stage.Holds, Stage.vars?, varsLeft] using hfinish
  | refused reason s c =>
    cases hresult
    simpa [Stage.Holds, Stage.vars?, varsLeft] using hfinish
  | failed stepId failure =>
    cases hresult
    by_cases hentrances : entrances events = []
    · rw [held_of_entrances k hentrances]
      exact hundone stepId failure rfl hwalk hentrances
    · exact hentered _ (held_mem hentrances)
  | completed c =>
    cases hresult
    simpa [Stage.Holds, Stage.vars?, varsLeft] using hfinish
  | broken err => cases hresult

theorem isInteractive_of_accepted? {value : Value} (h : s.accepted? e.patterns input = some value) :
    s.isInteractive = true := by
  obtain ⟨kind, hkind, haccepts⟩ := Option.bind_eq_some_iff.1 h
  split at haccepts
  · rename_i hinteractive
    simp [Step.isInteractive, hkind, hinteractive]
  · cases haccepts

/-- A call that fails at the step that accepted the answer undoes the turn. -/
theorem undone_of_failsAt {value : Value} (hlocate : e.locate c = .ok (w, s))
    (h : After (e.processInput c input session) log (.done (.ok (c', r))))
    (hevents : e.Happened w input session (.resuming s c) log events)
    (haccepts : s.accepted? e.patterns input = some value) (hfails : failsAt s.id r = true) :
    varsLeft c' r = c.vars := by
  obtain ⟨-, -, hregistered, hcurrent⟩ := locate_eq_ok_iff.1 hlocate
  obtain ⟨f, hwalk, hresult⟩ := hevents.result ((after_processInput_iff hlocate).1 h)
  -- Only a failed call ends in a service error; the other ends contradict `hfails`.
  cases f with
  | failed stepId failure =>
    cases hresult
    obtain rfl : stepId = s.id := by simpa [failsAt] using hfails
    rcases hwalk.failed_at hcurrent with ⟨hentrances, -⟩ | ⟨-, s', hs', hauto⟩
    · rw [held_of_entrances c hentrances]
      rfl
    · -- The step is the only one of its id, and it does not run by itself.
      cases hregistered.symm.trans hs'
      have hnot := Step.isInteractive_of_isAutomatic hauto
      rw [isInteractive_of_accepted? haccepts] at hnot
      cases hnot
  | waiting s c =>
    cases hresult
    cases hfails
  | refused reason s c =>
    cases hresult
    cases hfails
  | completed c =>
    cases hresult
    cases hfails
  | broken err => cases hresult

/-- A turn keeps the answers given before, but for one at its step that it replaces. -/
theorem processInput_keeps (hlocate : e.locate c = .ok (w, s))
    (h : After (e.processInput c input session) log (.done (.ok (c', r))))
    (hevents : e.Happened w input session (.resuming s c) log events)
    (hunwritten : ∀ event ∈ events, ¬ event.Writes name) (hc : c.vars.get? name = some v)
    (hkept : ∀ value, s.accepted? e.patterns input = some value → failsAt s.id r = false →
      name ≠ s.id) :
    (varsLeft c' r).get? name = some v := by
  have hends := (after_processInput_iff hlocate).1 h
  have hkeeps : (s.taken e.patterns input c.vars).get? name = some v →
      (varsLeft c' r).get? name = some v := by
    intro htaken
    refine hevents.keeps hends hunwritten ?_ fun _ _ _ _ _ => hc
    simpa [Stage.Holds, Stage.vars?] using htaken
  cases haccepts : s.accepted? e.patterns input with
  | none =>
    apply hkeeps
    simpa [Step.taken, haccepts] using hc
  | some value =>
    by_cases hfails : failsAt s.id r = true
    · rw [undone_of_failsAt hlocate h hevents haccepts hfails]
      exact hc
    · have hne := hkept value haccepts (by simpa using hfails)
      apply hkeeps
      simp [Step.taken, haccepts, Record.get?_insert, hne, hc]

/-- A turn keeps the answer it is given, unless a call fails at its step. -/
theorem processInput_keeps_answer (hlocate : e.locate c = .ok (w, s))
    (h : After (e.processInput c input session) log (.done (.ok (c', r))))
    (hevents : e.Happened w input session (.resuming s c) log events)
    (hunwritten : ∀ event ∈ events, ¬ event.Writes s.id)
    (haccepts : s.accepted? e.patterns input = some v)
    (hfails : failsAt s.id r = false) : (varsLeft c' r).get? s.id = some v := by
  obtain ⟨-, -, -, hcurrent⟩ := locate_eq_ok_iff.1 hlocate
  refine hevents.keeps ((after_processInput_iff hlocate).1 h) hunwritten ?_ ?_
  · simp [Stage.Holds, Stage.vars?, Step.taken, haccepts, Record.get?_insert]
  · rintro stepId failure rfl hwalk hentrances
    rcases hwalk.failed_at hcurrent with ⟨-, rfl⟩ | ⟨hne, -⟩
    · simp [failsAt] at hfails
    · exact absurd hentrances hne

end Turns

/-- What matters to the answers of a run: an answer is accepted at a step, or something happens in
a turn. -/
inductive Deed (H : Type) where
  | answered (stepId : String) (value : Value)
  | happened (event : Event H)

/-- The answer of a turn: what its step takes the input for, unless a call fails there. -/
def answerOf (patterns : PatternReader) (s : Step) (input : String) (r : StepResult) :
    Option Value :=
  if failsAt s.id r then none else s.accepted? patterns input

theorem answerOf_eq_some_iff {patterns : PatternReader} {s : Step} {r : StepResult} {v : Value} :
    answerOf patterns s input r = some v ↔
      failsAt s.id r = false ∧ s.accepted? patterns input = some v := by
  by_cases h : failsAt s.id r = true
  · simp [answerOf, h]
  · simp [answerOf, h]

namespace Episode

def deeds (patterns : PatternReader) : Episode H → List (Deed H)
  | .turn none events _ _ => events.map .happened
  | .turn (some (s, input)) events _ r =>
    ((answerOf patterns s input r).map (Deed.answered s.id)).toList ++ events.map .happened
  | .back _ _ => []

def varsLeft : Episode H → Record
  | .turn _ _ c r => Engine.varsLeft c r
  | .back c _ => c.vars

end Episode

/-- Whether a value is the latest answer at a step among deeds, and nothing wrote it since. -/
def LatestAnswer (id : String) (v : Value) (deeds : List (Deed H)) : Prop :=
  ∃ before since, deeds = before ++ .answered id v :: since ∧ (∀ v', .answered id v' ∉ since) ∧
    ∀ event, .happened event ∈ since → ¬ event.Writes id

section Runs

variable {run : List (Episode H)} {c c' : Context} {s : Step} {id : String} {v : Value}
  {r : StepResult} {events : List (Event H)} {deeds deeds' : List (Deed H)}

theorem LatestAnswer.of_append (h : LatestAnswer id v (deeds ++ deeds')) :
    LatestAnswer id v deeds' ∨ LatestAnswer id v deeds ∧ (∀ v', .answered id v' ∉ deeds') ∧
      ∀ event, .happened event ∈ deeds' → ¬ event.Writes id := by
  obtain ⟨before, since, hsplit, hlatest, hunwritten⟩ := h
  rcases List.append_eq_append_iff.1 hsplit with ⟨mid, hbefore, hmid⟩ | ⟨mid, hbefore, hmid⟩
  · exact .inl ⟨mid, since, hmid, hlatest, hunwritten⟩
  · cases mid with
    | nil => exact .inl ⟨[], since, hmid.symm, hlatest, hunwritten⟩
    | cons deed mid =>
      obtain ⟨rfl, rfl⟩ := List.cons.inj hmid
      refine .inr ⟨⟨before, mid, hbefore, ?_, ?_⟩, ?_, ?_⟩
      · exact fun v' hmem => hlatest v' (List.mem_append_left _ hmem)
      · exact fun event hmem => hunwritten event (List.mem_append_left _ hmem)
      · exact fun v' hmem => hlatest v' (List.mem_append_right _ hmem)
      · exact fun event hmem => hunwritten event (List.mem_append_right _ hmem)

theorem not_latestAnswer_happened : ¬ LatestAnswer id v (events.map Deed.happened) := by
  rintro ⟨before, since, hsplit, -, -⟩
  have hmem : Deed.answered id v ∈ events.map Deed.happened := by simp [hsplit]
  simp at hmem

theorem LatestAnswer.of_turn {input : String}
    (h : LatestAnswer id v (Episode.deeds e.patterns (.turn (some (s, input)) events c r))) :
    id = s.id ∧ answerOf e.patterns s input r = some v ∧
      ∀ event ∈ events, ¬ event.Writes id := by
  rcases h.of_append with h | ⟨⟨before, since, hsplit, -, -⟩, -, hunwritten⟩
  · exact absurd h not_latestAnswer_happened
  · have hmem : Deed.answered id v ∈
        ((answerOf e.patterns s input r).map (Deed.answered (H := H) s.id)).toList := by
      simp [hsplit]
    obtain ⟨hvalue, rfl⟩ : answerOf e.patterns s input r = some v ∧ s.id = id := by simpa using hmem
    exact ⟨rfl, hvalue, fun event hevent => hunwritten event (List.mem_map_of_mem hevent)⟩

theorem goBack_vars {navigation : Navigation} (h : e.goBack c = .ok (c', navigation)) :
    c'.vars = c.vars := by
  simp only [goBack, Bind.bind, Except.bind] at h
  split at h
  · cases h
  · split at h
    · cases h
      rfl
    · split at h
      · cases h
        rfl
      · split at h
        · cases h
        · cases h
          rfl

theorem varsLeft_eq {st : Stage} {k : Context} {budget : Nat} {log : CallLog H}
    (hends : Ends e w input session budget [] k st log (.ok (c, r))) (hc : c.workflowId ≠ none) :
    varsLeft c r = c.vars := by
  obtain ⟨events, f, -, -, -, hresult⟩ := hends.of_ok
  cases f with
  | waiting s c =>
    cases hresult
    rfl
  | refused reason s c =>
    cases hresult
    rfl
  | failed stepId failure =>
    cases hresult
    rfl
  | completed c =>
    cases hresult
    exact absurd rfl hc
  | broken err => cases hresult

/-- While the workflow is running, the last episode left the variables of the context. -/
theorem Plays.exists_last (h : e.Plays w run c) (hc : c.workflowId ≠ none) :
    ∃ last ∈ run.getLast?, last.varsLeft = c.vars := by
  cases h with
  | start hget hturn hevents =>
    exact ⟨_, rfl, varsLeft_eq ((after_start_iff hget).1 hturn) hc⟩
  | input hrun hlocate hturn hevents =>
    exact ⟨_, List.getLast?_concat,
      varsLeft_eq ((after_processInput_iff hlocate).1 hturn) hc⟩
  | back hrun hback => exact ⟨_, List.getLast?_concat, rfl⟩

theorem Plays.keeps_latest (h : e.Plays w run c)
    (hlatest : LatestAnswer id v (run.flatMap (Episode.deeds e.patterns))) :
    ∀ last ∈ run.getLast?, last.varsLeft.get? id = some v := by
  induction h with
  | start hget hturn hevents =>
    simp only [List.flatMap_singleton] at hlatest
    exact absurd hlatest not_latestAnswer_happened
  | @input run c c' s input session log r events hplays hlocate hturn hevents ih =>
    rw [List.getLast?_concat]
    rintro last ⟨⟩
    rw [List.flatMap_append, List.flatMap_singleton] at hlatest
    rcases hlatest.of_append with hnew | ⟨hold, hothers, hunwritten⟩
    · -- The answer is the one of this turn.
      obtain ⟨rfl, hanswer, hunwritten⟩ := hnew.of_turn
      obtain ⟨hfails, haccepts⟩ := answerOf_eq_some_iff.1 hanswer
      exact processInput_keeps_answer hlocate hturn hevents hunwritten haccepts hfails
    · -- It is an earlier one, so it is among the variables of the context before.
      obtain ⟨-, hrunning, -, -⟩ := locate_eq_ok_iff.1 hlocate
      obtain ⟨last, hlast, hleft⟩ := hplays.exists_last (by simp [hrunning])
      have hc : c.vars.get? id = some v := hleft ▸ ih hold last hlast
      refine processInput_keeps hlocate hturn hevents ?_ hc ?_
      · exact fun event hevent => hunwritten event
          (List.mem_append_right _ (List.mem_map_of_mem hevent))
      · rintro value haccepts hfails rfl
        have hanswer := answerOf_eq_some_iff.2 ⟨hfails, haccepts⟩
        exact hothers value (by simp [Episode.deeds, hanswer])
  | @back run c c' navigation hplays hback ih =>
    rw [List.getLast?_concat]
    rintro last ⟨⟩
    rw [List.flatMap_append, List.flatMap_singleton, Episode.deeds, List.append_nil] at hlatest
    obtain ⟨last, hlast, hleft⟩ := hplays.exists_last (workflowId_ne_none_of_goBack hback)
    rw [Episode.varsLeft, goBack_vars hback, ← hleft]
    exact ih hlatest last hlast

/-- Accepted answers are kept. Whatever episodes follow, the variables, and the data handed over at
the end, have under the id of a step the latest answer that was accepted there in a turn without a
service error at this step, unless an action called since gave data of this name, or the name is
`error` and the action of a step was called since. Where such a call leads on, what it leaves under
`error` is its own: nothing, or the code of its failure. -/
theorem Plays.answers_kept (h : e.Plays w run c) :
    (∀ id v, LatestAnswer id v (run.flatMap (Episode.deeds e.patterns)) →
      ∀ last ∈ run.getLast?, last.varsLeft.get? id = some v) ∧
    ∀ s c x next d, w.settle s c x = .advance next d → ¬ Tells "error" x →
      next.vars.get? "error" = none ∨
        ∃ failure : CallFailure, next.vars.get? "error" = some (.text failure.code) := by
  exact ⟨fun id v => h.keeps_latest, fun s c x next d => Workflow.error_of_settle⟩

end Runs

/-- A workflow that asks what went wrong, has it looked up and asks for a confirmation. -/
def support : Workflow where
  id := "support"
  startStepId := "error"
  steps := [
    { id := "error", kind := some .input, next := some (.fixed "lookup") },
    { id := "lookup", kind := some .service, action := some "lookup",
      next := some (.fixed "confirm") },
    { id := "confirm", kind := some .input }]

def helpdesk : Engine Unit where
  registry := ⟨[support]⟩
  actions := { shared := [("lookup", ())] }

def opened : Context where
  workflowId := some "support"
  currentStepId := some "error"
  history := ["error"]
  startedAt := some ⟨0, 0⟩

def lookingUp : Context :=
  { opened with
    currentStepId := some "lookup"
    vars := [("error", .text (Text.trim "disk full"))] }

def confirming : Context :=
  { opened with
    currentStepId := some "confirm"
    history := ["error", "confirm"]
    vars := [] }

def lookedUp : Entry (fun _ : Call Unit => CallResult) :=
  ⟨⟨(), ⟨"support", "lookup", [], lookingUp.vars, "disk full", ⟨"user", none⟩⟩⟩,
    .ok { success := true }⟩

def confirmed : Record := [("confirm", .text (Text.trim "yes"))]

def ticket : List (Episode Unit) := [
  .turn none [.entered support.steps[0] { opened with history := [] }] opened
    (.awaitingInput (support.prompt support.steps[0] opened none) []),
  .turn (some (support.steps[0], "disk full"))
    [.entered support.steps[1] lookingUp, .acted lookedUp.question lookedUp.answer,
      .entered support.steps[2] { confirming with history := ["error"] }]
    confirming (.awaitingInput (support.prompt support.steps[2] confirming none) []),
  .turn (some (support.steps[2], "yes")) [] {} (.completed confirmed [] none)]

/-- The confirmation is kept, and what went wrong is not: it was accepted, no action gave data, and
the lookup removed it all the same. -/
theorem answers_kept_ticket : helpdesk.Plays support ticket {} ∧
    LatestAnswer "confirm" (.text (Text.trim "yes"))
      (ticket.flatMap (Episode.deeds helpdesk.patterns)) ∧
    (∀ last ∈ ticket.getLast?,
      last.varsLeft.get? "confirm" = some (.text (Text.trim "yes"))) ∧
    Deed.answered "error" (.text (Text.trim "disk full")) ∈
      ticket.flatMap (Episode.deeds helpdesk.patterns) ∧
    ¬ Tells "error" lookedUp.answer ∧
    (∀ last ∈ ticket.getLast?, last.varsLeft.get? "error" = none) := by
  have hstart : helpdesk.Plays support [ticket[0]] opened := by
    have hdone : After (helpdesk.start "support" ⟨0, 0⟩ ⟨"user", none⟩) []
        (.done (.ok (opened,
          .awaitingInput (support.prompt support.steps[0] opened none) []))) := .nil _
    refine .start rfl hdone ⟨rfl, .waiting support.steps[0] opened, ?_⟩
    exact (Walk.nil _).snoc (.entered rfl) |>.snoc (.waits rfl)
  have hlookup : helpdesk.Plays support [ticket[0], ticket[1]] confirming := by
    have hdone : After (helpdesk.processInput opened "disk full" ⟨"user", none⟩) [lookedUp]
        (.done (.ok (confirming,
          .awaitingInput (support.prompt support.steps[2] confirming none) []))) :=
      .cons _ (.nil _)
    refine hstart.input rfl hdone ⟨rfl, .waiting support.steps[2] confirming, ?_⟩
    have hanswered : Move helpdesk support "disk full" ⟨"user", none⟩
        (.resuming support.steps[0] opened) []
        (.heading { lookingUp with currentStepId := some "error" } (.step "lookup")) :=
      .accepted rfl rfl rfl .leaves
    have hentered : Move helpdesk support "disk full" ⟨"user", none⟩
        (.heading { lookingUp with currentStepId := some "error" } (.step "lookup"))
        [.entered support.steps[1] lookingUp] (.arrived support.steps[1] lookingUp) := .entered rfl
    have hacted : Move helpdesk support "disk full" ⟨"user", none⟩
        (.arrived support.steps[1] lookingUp) [.acted lookedUp.question lookedUp.answer]
        (.heading { lookingUp with vars := [] } (.step "confirm")) := .runs rfl rfl (.asks rfl _)
    have hmoved : Move helpdesk support "disk full" ⟨"user", none⟩
        (.heading { lookingUp with vars := [] } (.step "confirm"))
        [.entered support.steps[2] { confirming with history := ["error"] }]
        (.arrived support.steps[2] { confirming with history := ["error"] }) := .entered rfl
    exact (Walk.nil _).snoc hanswered |>.snoc hentered |>.snoc hacted |>.snoc hmoved
      |>.snoc (.waits rfl)
  have hrun : helpdesk.Plays support ticket {} := by
    have hdone : After (helpdesk.processInput confirming "yes" ⟨"user", none⟩) []
        (.done (.ok ({}, .completed confirmed [] none))) := .nil _
    refine hlookup.input rfl hdone ⟨rfl, .completed { confirming with vars := confirmed }, ?_⟩
    have hanswered : Move helpdesk support "yes" ⟨"user", none⟩
        (.resuming support.steps[2] confirming) []
        (.heading { confirming with vars := confirmed } .finish) := .accepted rfl rfl rfl .leaves
    exact (Walk.nil _).snoc hanswered |>.snoc (.completed rfl)
  have hlatest : LatestAnswer "confirm" (.text (Text.trim "yes"))
      (ticket.flatMap (Episode.deeds helpdesk.patterns)) := by
    refine ⟨(ticket.take 2).flatMap (Episode.deeds helpdesk.patterns), [], rfl, ?_, ?_⟩
    · exact fun v' => List.not_mem_nil
    · exact fun event hmem => absurd hmem List.not_mem_nil
  have htells : ¬ Tells "error" lookedUp.answer := by
    rintro ⟨report, data, hreport, hdata, -⟩
    cases hreport
    cases hdata
  refine ⟨hrun, hlatest, hrun.answers_kept.1 _ _ hlatest, ?_, htells, ?_⟩
  · exact List.mem_flatMap.2 ⟨ticket[1], .tail _ (.head _), .head _⟩
  · rintro last ⟨⟩
    rfl

end Engine

end Dialogue
