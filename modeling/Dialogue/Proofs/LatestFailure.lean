import Dialogue.Proofs.Answers
import Dialogue.Proofs.Delivery
import Dialogue.Proofs.Entries
import Mathlib.Data.List.DropRight

namespace Dialogue

open Interaction

variable {H : Type}

namespace CallResult

/-- Whether a conversation goes on after a call as after a success. -/
def goesOn : CallResult → Bool
  | .ok r => r.goesOn
  | .error _ => false

/-- What a failed call reports as the error: what its data has under `error`, or else the code of
its failure. -/
def reported : CallResult → Value
  | .ok r => ((Record.ofList (r.data.getD [])).get? "error").getD (.text r.failure.code)
  | .error failure => .text failure.code

def errorLeft (x : CallResult) : Option Value := if goesOn x then none else some (reported x)

end CallResult

namespace Workflow

variable {w : Workflow} {s : Step} {c next : Context} {d : Destination} {x : CallResult}

/-- After a failure the error branch is taken, with what the data has under `error` or the code of
the failure. -/
theorem recover_eq_advance {failure : CallFailure} {data : Option Record}
    (h : w.recover s c failure data = .advance next d) :
    (∃ t, s.onError = some t ∧ t.resolve next.vars = some d) ∧
      next.vars.get? "error" =
        some (((Record.ofList (data.getD [])).get? "error").getD (.text failure.code)) := by
  simp only [recover] at h
  cases honError : s.onError with
  | none => simp [honError] at h
  | some t =>
    rw [honError] at h
    dsimp only at h
    rw [← Record.isSome_get?_ofList] at h
    generalize hnext : (if ((Record.ofList (data.getD [])).get? "error").isSome then
      c.merge (data.getD []) else (c.merge (data.getD [])).set "error" (.text failure.code)) = next'
      at h
    have herror : next'.vars.get? "error" =
        some (((Record.ofList (data.getD [])).get? "error").getD (.text failure.code)) := by
      subst hnext
      cases htold : (Record.ofList (data.getD [])).get? "error" with
      | none => simp [Context.set, Record.get?_insert]
      | some v => simp [Context.merge, Record.get?_merge, htold]
    cases hresolve : t.resolve next'.vars with
    | none => simp [hresolve] at h
    | some d' =>
      simp only [hresolve] at h
      cases h
      exact ⟨⟨t, rfl, hresolve⟩, herror⟩

theorem settle_branch (h : w.settle s c x = .advance next d) (hfails : x.goesOn = false) :
    ∃ t, s.onError = some t ∧ t.resolve next.vars = some d := by
  cases x with
  | error failure => exact (recover_eq_advance h).1
  | ok report =>
    have hnot : ¬ report.goesOn = true := by simpa [CallResult.goesOn] using hfails
    simp only [settle, if_neg hnot] at h
    exact (recover_eq_advance h).1

theorem settle_error (h : w.settle s c x = .advance next d)
    (hdata : x.goesOn = true → ¬ Tells "error" x) : next.vars.get? "error" = x.errorLeft := by
  cases x with
  | error failure => exact (recover_eq_advance h).2
  | ok report =>
    by_cases hgoes : report.goesOn = true
    · have hnone := get?_data_of_not_tells (hdata hgoes)
      have hcleared : (Context.merge { c with vars := c.vars.erase "error" }
          (report.data.getD [])).vars.get? "error" = none := by
        rw [Context.merge, Record.get?_merge_of_none hnone, Record.get?_erase, if_pos rfl]
      have hleft : CallResult.errorLeft (.ok report) = none := by
        simp [CallResult.errorLeft, CallResult.goesOn, hgoes]
      rw [hleft]
      simp only [settle, if_pos hgoes] at h
      split at h
      · cases h
        exact hcleared
      · split at h
        · cases h
          exact hcleared
        · cases h
    · simp only [settle, if_neg hgoes] at h
      have hleft : CallResult.errorLeft (.ok report) = some (CallResult.reported (.ok report)) := by
        simp [CallResult.errorLeft, CallResult.goesOn, hgoes]
      rw [hleft]
      exact (recover_eq_advance h).2

end Workflow

namespace Engine

def Event.errorLeft (o : Option Value) : Event H → Option Value
  | .entered _ _ => o
  | .acted _ x => CallResult.errorLeft x
  | .closed _ _ => o

def errorAfter (o : Option Value) (events : List (Event H)) : Option Value :=
  events.foldl Event.errorLeft o

/-- The events up to the last step entered: the context held then knows of no others. -/
def upToEntrance (events : List (Event H)) : List (Event H) :=
  events.rdropWhile fun event => event.entrance?.isNone

/-- The events whose effects a turn with some result keeps. -/
def keptEvents (r : StepResult) (events : List (Event H)) : List (Event H) :=
  if r.isFailure then upToEntrance events else events

/-- Whether the turn took the error branch of the step after each call that failed. -/
def Branches (w : Workflow) (events : List (Event H)) : Prop :=
  ∀ before call x since, events = before ++ .acted call x :: since → x.goesOn = false →
    ∃ s t s' c rest, since = .entered s' c :: rest ∧ w.step? call.request.stepId = some s ∧
      s.onError = some t ∧ t.resolve c.vars = some (.step s'.id)

section Events

variable {w : Workflow} {o : Option Value} {events events' : List (Event H)}

@[simp]
theorem errorAfter_nil : errorAfter o ([] : List (Event H)) = o := rfl

@[simp]
theorem errorAfter_append :
    errorAfter o (events ++ events') = errorAfter (errorAfter o events) events' :=
  List.foldl_append

theorem branches_nil : Branches w ([] : List (Event H)) := by
  intro before call x since h
  simp at h

theorem Branches.append (h : Branches w events) (h' : Branches w events') :
    Branches w (events ++ events') := by
  intro before call x since hsplit hfails
  rcases List.append_eq_append_iff.1 hsplit with ⟨mid, rfl, hmid⟩ | ⟨mid, hbefore, hmid⟩
  · exact h' mid call x since hmid hfails
  · cases mid with
    | nil => exact h' [] call x since hmid.symm hfails
    | cons event mid =>
      obtain ⟨rfl, rfl⟩ := List.cons.inj hmid
      obtain ⟨s, t, s', c, rest, rfl, hbranch⟩ := h before call x mid hbefore hfails
      exact ⟨s, t, s', c, rest ++ events', rfl, hbranch⟩

theorem upToEntrance_of_entrances (h : entrances events = []) : upToEntrance events = [] := by
  rw [upToEntrance, List.rdropWhile_eq_nil_iff]
  intro event hevent
  simp [List.filterMap_eq_nil_iff.1 h event hevent]

theorem upToEntrance_entered (before : List (Event H)) (s : Step) (c : Context)
    (h : entrances events = []) :
    upToEntrance (before ++ .entered s c :: events) = before ++ [.entered s c] := by
  -- The list is taken off from its end, where no step is entered.
  induction events using List.reverseRecOn with
  | nil => exact List.rdropWhile_concat_neg _ _ _ (by simp [Event.entrance?])
  | append_singleton events event ih =>
    rw [entrances_append, List.append_eq_nil_iff] at h
    have hevent : event.entrance?.isNone = true := by
      simp [List.filterMap_eq_nil_iff.1 h.2 event (List.mem_singleton_self event)]
    have hassoc : before ++ .entered s c :: (events ++ [event]) =
        (before ++ .entered s c :: events) ++ [event] := by simp
    rw [hassoc, upToEntrance, List.rdropWhile_concat, if_pos hevent]
    exact ih h.1

end Events

/-- Whether the context of a stage has something under `error`; a turn that went back, broke down
or completed its workflow has no say. -/
def Stage.Reports (patterns : PatternReader) (input : String) (o : Option Value) : Stage → Prop
  | .resuming s c => (s.taken patterns input c.vars).get? "error" = o
  | .arrived _ c => c.vars.get? "error" = o
  | .heading c _ => c.vars.get? "error" = o
  | .ended (.waiting _ c) => c.vars.get? "error" = o
  | .ended (.refused _ _ c) => c.vars.get? "error" = o
  | .ended (.failed _ _) => True
  | .ended (.completed _) => True
  | .ended (.broken _) => True

/-- Whether the actions called among events give data under `error` only when they fail. -/
def Reserved (events : List (Event H)) : Prop :=
  ∀ call x, .acted call x ∈ events → x.goesOn = true → ¬ Tells "error" x

theorem reserved_append {events events' : List (Event H)} (h : Reserved (events ++ events')) :
    Reserved events ∧ Reserved events' :=
  ⟨fun call x hmem => h call x (List.mem_append_left _ hmem),
    fun call x hmem => h call x (List.mem_append_right _ hmem)⟩

variable {e : Engine H} {w : Workflow} {input : String} {session : SessionRef}

section Walks

variable {s : Step} {c k : Context} {action : Option String} {events before since : List (Event H)}
  {st st' : Stage} {o : Option Value} {call : Call H} {x : CallResult}

theorem Acts.reports (h : Acts e w input session s c action events st) (hdata : Reserved events)
    (hc : c.vars.get? "error" = o) : st.Reports e.patterns input (errorAfter o events) := by
  cases h with
  | leaves =>
    cases w.destination s c with
    | ok d => exact hc
    | error err => trivial
  | unknown h => trivial
  | asks h x =>
    cases hsettle : w.settle s c x with
    | advance next d => exact Workflow.settle_error hsettle (hdata _ x (List.mem_singleton_self _))
    | refuse failure => trivial
    | broken err => trivial

theorem Move.reports (h : Move e w input session st events st') (hdata : Reserved events)
    (hst : st.Reports e.patterns input o) : st'.Reports e.patterns input (errorAfter o events) := by
  -- Besides the input, only the call of a step's own action writes `error`.
  cases h with
  | kindless hkind => trivial
  | @refused s c kind reason hkind hinteractive hcheck =>
    have hnone : s.accepted? e.patterns input = none := by
      rw [accepted?_of_kindOf hkind hinteractive, hcheck]
      rfl
    simpa [Stage.Reports, Step.taken, hnone] using hst
  | @accepted s c kind value events st hkind hinteractive hcheck hacts =>
    have hsome : s.accepted? e.patterns input = some value := by
      rw [accepted?_of_kindOf hkind hinteractive, hcheck]
      rfl
    have hc : (c.vars.insert s.id value).get? "error" = o := by
      simpa [Stage.Reports, Step.taken, hsome] using hst
    exact hacts.reports hdata hc
  | @resumed s c kind events st hkind hinteractive hacts =>
    have hnot : s.isInteractive = false := by
      rw [Workflow.isInteractive_of_kindOf hkind, hinteractive]
    refine hacts.reports hdata ?_
    simpa [Stage.Reports, Step.taken_of_not_interactive hnot] using hst
  | missing hstep => trivial
  | entered hstep => exact hst
  | @waits s c hauto =>
    have hsame : (e.awaiting s c).vars = c.vars := by
      simp only [awaiting]
      split
      · rfl
      · rfl
    simpa [Stage.Reports, hsame] using hst
  | stumbles hauto hkind => trivial
  | runs hauto hkind hacts => exact hacts.reports hdata hst
  | completed hhook => trivial
  | unhooked hhook h => trivial
  | @closed c hook handler hhook h x =>
    cases x with
    | error failure => trivial
    | ok report =>
      by_cases hsuccess : report.success = true
      · simp [hooked, hsuccess, Stage.Reports]
      · simp [hooked, hsuccess, Stage.Reports]

theorem Walk.reports (h : Walk e w input session st events st') (hdata : Reserved events)
    (hst : st.Reports e.patterns input o) : st'.Reports e.patterns input (errorAfter o events) := by
  induction h generalizing o with
  | nil st => exact hst
  | cons hmove hwalk ih =>
    obtain ⟨hfirst, hrest⟩ := reserved_append hdata
    rw [errorAfter_append]
    exact ih hrest (hmove.reports hfirst hst)

/-- The context to go back to has under `error` what was left up to the last step entered. -/
theorem Walk.held_reports (h : Walk e w input session st events st') (hdata : Reserved events)
    (hst : st.Reports e.patterns input o) (hk : k.vars.get? "error" = o) :
    (held k events).vars.get? "error" = errorAfter o (upToEntrance events) := by
  by_cases hentrances : entrances events = []
  · rw [held_of_entrances k hentrances, upToEntrance_of_entrances hentrances]
    exact hk
  · obtain ⟨before, s, c, since, rfl, hsince⟩ := exists_last_entered hentrances
    obtain ⟨st₁, st₂, hbefore, hmove, -⟩ := h.split rfl
    obtain ⟨c₀, id, rfl, -, rfl, -⟩ := hmove.of_entered
    have hthere : c₀.vars.get? "error" = errorAfter o before :=
      hbefore.reports (reserved_append hdata).1 hst
    rw [held_append, held_entered, held_of_entrances _ hsince, upToEntrance_entered _ _ _ hsince,
      errorAfter_append]
    exact hthere

/-- An action is called for the step the turn began on or for one it entered, and the turn goes on
as the answer says. -/
theorem Move.of_acted (h : Move e w input session st [.acted call x] st') :
    ∃ s c k, (st = .resuming s k ∨ st = .arrived s k) ∧ call.request.stepId = s.id ∧
      st' = settled s (w.settle s c x) := by
  have hacts : ∀ {s c action}, Acts e w input session s c action [.acted call x] st' →
      call.request.stepId = s.id ∧ st' = settled s (w.settle s c x) := by
    intro s c action hacts
    cases hacts with
    | asks h x => exact ⟨rfl, rfl⟩
  cases h with
  | accepted hkind hinteractive hcheck h => exact ⟨_, _, _, .inl rfl, hacts h⟩
  | resumed hkind hinteractive h => exact ⟨_, _, _, .inl rfl, hacts h⟩
  | runs hauto hkind h => exact ⟨_, _, _, .inr rfl, hacts h⟩

/-- Whether a turn begins at a stage: on the way to a step, or at a step of the workflow. -/
def Stage.Opens (w : Workflow) : Stage → Prop
  | .resuming s _ => w.step? s.id = some s
  | .arrived _ _ => False
  | .heading _ _ => True
  | .ended _ => False

theorem Walk.step?_eq (h : Walk e w input session st events st') (hst : st.Opens w)
    (hat : st' = .resuming s k ∨ st' = .arrived s k) : w.step? s.id = some s := by
  rcases h.last with ⟨-, rfl⟩ | ⟨events₁, events₂, st₁, -, -, hmove⟩
  · rcases hat with rfl | rfl
    · exact hst
    · exact hst.elim
  · rcases hat with rfl | rfl
    · exact absurd hmove Move.not_to_resuming
    · obtain ⟨c₀, id, -, hstep, -, -⟩ := hmove.to_arrived
      exact Workflow.step?_self hstep

/-- If a step is entered after a call that failed, the first one is where the error branch leads. -/
theorem Walk.branches (h : Walk e w input session st (before ++ .acted call x :: since) st')
    (hst : st.Opens w) (hfails : x.goesOn = false) (hentrances : entrances since ≠ []) :
    ∃ s t s' c rest, since = .entered s' c :: rest ∧ w.step? call.request.stepId = some s ∧
      s.onError = some t ∧ t.resolve c.vars = some (.step s'.id) := by
  obtain ⟨st₁, st₂, hbefore, hmove, hrest⟩ := h.split rfl
  obtain ⟨s, c, k, hat, hid, rfl⟩ := hmove.of_acted
  have hstep := hbefore.step?_eq hst hat
  -- Where the turn ends without a further move, no step is entered.
  have hover : ∀ {f : Finish}, ¬ Walk e w input session (.ended f) since st' := by
    intro f hwalk
    cases hwalk with
    | nil => exact hentrances rfl
    | cons hmove hwalk => cases hmove
  cases hsettle : w.settle s c x with
  | refuse failure => exact (hover (hsettle ▸ hrest)).elim
  | broken err => exact (hover (hsettle ▸ hrest)).elim
  | advance next d =>
    obtain ⟨t, honError, hresolve⟩ := Workflow.settle_branch hsettle hfails
    rw [hsettle] at hrest
    cases hrest with
    | nil => exact absurd rfl hentrances
    | cons hfirst hmore =>
      cases hfirst with
      | missing hmissing => exact (hover hmore).elim
      | completed hhook => exact (hover hmore).elim
      | unhooked hhook h => exact (hover hmore).elim
      | closed hhook h y =>
        cases hmore with
        | nil => exact absurd rfl hentrances
        | cons hmove hwalk => cases hmove
      | @entered _ id s' hstep' =>
        refine ⟨s, t, s', next.moveTo s'.id, _, rfl, hid ▸ hstep, honError, ?_⟩
        rw [Workflow.step?_id hstep']
        exact hresolve

/-- The last thing to happen before a turn waits is that it enters the step. -/
theorem Walk.of_waiting (h : Walk e w input session st events (.ended (.waiting s c)))
    (hst : st.Opens w) : ∃ before c₀, events = before ++ [.entered s c₀] ∧
      s.isAutomatic = false ∧ c = e.awaiting s c₀ := by
  rcases h.last with ⟨-, rfl⟩ | ⟨events₁, events₂, st₁, rfl, hwalk, hmove⟩
  · exact hst.elim
  · obtain ⟨rfl, hauto, c₀, rfl, hc⟩ := hmove.of_waiting rfl
    rcases hwalk.last with ⟨-, rfl⟩ | ⟨before, last, st₂, rfl, -, hlast⟩
    · exact hst.elim
    · obtain ⟨-, -, -, -, -, rfl⟩ := hlast.to_arrived
      exact ⟨before, c₀, by simp, hauto, hc⟩

end Walks

section Turns

variable {c c' k : Context} {st : Stage} {budget : Nat} {log : CallLog H}
  {events : List (Event H)} {r : StepResult} {o : Option Value}

theorem Stage.Opens.not_ended (hst : st.Opens w) (f : Finish) : st ≠ .ended f := by
  rintro rfl
  exact hst

/-- While the workflow is running, the events a turn keeps are none, or the last of them enters a
step. -/
theorem Happened.kept_cases (h : e.Happened w input session st log events)
    (hends : Ends e w input session budget [] k st log (.ok (c', r))) (hst : st.Opens w)
    (hactive : c'.isActive = true) :
    keptEvents r events = [] ∨ ∃ before s c since, events = before ++ .entered s c :: since ∧
      keptEvents r events = before ++ [.entered s c] := by
  obtain ⟨f, hwalk, hresult⟩ := h.result hends
  cases f with
  | waiting s c =>
    cases hresult
    obtain ⟨before, c₀, rfl, -, -⟩ := hwalk.of_waiting hst
    exact .inr ⟨before, s, c₀, [], rfl, rfl⟩
  | refused reason s c =>
    cases hresult
    obtain ⟨rfl, -⟩ := hwalk.of_refused hst.not_ended
    exact .inl rfl
  | failed stepId failure =>
    cases hresult
    by_cases hentrances : entrances events = []
    · exact .inl (upToEntrance_of_entrances hentrances)
    · obtain ⟨before, s, c, since, rfl, hsince⟩ := exists_last_entered hentrances
      exact .inr ⟨before, s, c, since, rfl, upToEntrance_entered _ _ _ hsince⟩
  | completed c =>
    cases hresult
    cases hactive
  | broken err => cases hresult

/-- After each failed call that a turn keeps it took the error branch. -/
theorem Happened.branches (h : e.Happened w input session st log events)
    (hends : Ends e w input session budget [] k st log (.ok (c', r))) (hst : st.Opens w)
    (hactive : c'.isActive = true) : Branches w (keptEvents r events) := by
  obtain hnil | ⟨before₀, s₀, c₀, since₀, hevents, hkept⟩ := h.kept_cases hends hst hactive
  · rw [hnil]
    exact branches_nil
  · rw [hkept]
    intro before call x since hsplit hfails
    obtain ⟨f, hwalk, -⟩ := h.result hends
    -- The last event kept enters a step, so the call is not the last one.
    rcases List.eq_nil_or_concat since with rfl | ⟨more, last, hsince⟩
    · obtain ⟨-, hlast⟩ := List.append_inj' hsplit rfl
      cases hlast
    · rw [List.concat_eq_append] at hsince
      subst hsince
      have hsplit' : before₀ ++ [.entered s₀ c₀] = (before ++ .acted call x :: more) ++ [last] := by
        simpa using hsplit
      obtain ⟨rfl, hlast⟩ := List.append_inj' hsplit' rfl
      cases hlast
      have hall : events = before ++ .acted call x :: (more ++ .entered s₀ c₀ :: since₀) := by
        simpa using hevents
      rw [hall] at hwalk
      obtain ⟨s, t, s', c, rest, hnext, hbranch⟩ := hwalk.branches hst hfails (by simp)
      cases more with
      | nil =>
        cases hnext
        exact ⟨s, t, s₀, c₀, [], rfl, hbranch⟩
      | cons event more =>
        cases hnext
        exact ⟨s, t, s', c, more ++ [.entered s₀ c₀], rfl, hbranch⟩

/-- While the workflow is running, a turn leaves under `error` what its kept events do. -/
theorem Happened.reports (h : e.Happened w input session st log events)
    (hends : Ends e w input session budget [] k st log (.ok (c', r))) (hdata : Reserved events)
    (hst : st.Reports e.patterns input o) (hk : k.vars.get? "error" = o)
    (hactive : c'.isActive = true) :
    c'.vars.get? "error" = errorAfter o (keptEvents r events) := by
  obtain ⟨f, hwalk, hresult⟩ := h.result hends
  have hfinish := hwalk.reports hdata hst
  cases f with
  | waiting s c =>
    cases hresult
    exact hfinish
  | refused reason s c =>
    cases hresult
    exact hfinish
  | failed stepId failure =>
    cases hresult
    exact hwalk.held_reports hdata hst hk
  | completed c =>
    cases hresult
    cases hactive
  | broken err => cases hresult

end Turns

namespace Episode

def events : Episode H → List (Event H)
  | .turn _ events _ _ => events
  | .back _ _ => []

def kept : Episode H → List (Event H)
  | .turn _ events _ r => keptEvents r events
  | .back _ _ => []

end Episode

section Runs

variable {run : List (Episode H)} {c : Context}

end Runs

end Engine

end Dialogue
