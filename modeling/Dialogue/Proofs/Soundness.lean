import Dialogue.Pattern.Reader
import Dialogue.Proofs.Registration
import Dialogue.Proofs.Transcript

namespace Dialogue

open Interaction

variable {H : Type}

abbrev CallLog (H : Type) := List (Entry (fun _ : Call H => CallResult))

def CallLog.Overrides (log : CallLog H) (target : String) : Prop :=
  ∃ entry ∈ log, ∃ report : Report, entry.answer = .ok report ∧
    report.nextStepOverride = some target

theorem CallLog.Overrides.append {log : CallLog H} {target : String}
    (h : CallLog.Overrides log target) (log' : CallLog H) :
    CallLog.Overrides (log ++ log') target := by
  obtain ⟨entry, hentry, hreport⟩ := h
  exact ⟨entry, List.mem_append_left _ hentry, hreport⟩

namespace Context

/-- A context at a step of a workflow, with steps of it in the history. -/
structure Within (w : Workflow) (c : Context) : Prop where
  workflow : c.workflowId = some w.id
  step : ∃ s, w.step? s.id = some s ∧ c.currentStepId = some s.id
  history : ∀ id ∈ c.history, (w.step? id).isSome

variable {w : Workflow} {c : Context}

theorem Within.congr {c' : Context} (h : c.Within w) (hworkflow : c'.workflowId = c.workflowId)
    (hstep : c'.currentStepId = c.currentStepId) (hhistory : c'.history = c.history) :
    c'.Within w := by
  refine ⟨hworkflow ▸ h.workflow, ?_, ?_⟩
  · rw [hstep]
    exact h.step
  · rw [hhistory]
    exact h.history

theorem Within.moveTo (h : c.Within w) {s : Step} (hs : w.step? s.id = some s) :
    (c.moveTo s.id).Within w :=
  ⟨h.workflow, ⟨s, hs, rfl⟩, h.history⟩

theorem Within.visit (h : c.Within w) {id : String} (hid : (w.step? id).isSome) (limit : Nat) :
    (c.visit id limit).Within w := by
  refine ⟨h.workflow, h.step, ?_⟩
  intro id' hid'
  simp only [Context.visit, extendHistory] at hid'
  split at hid'
  · exact h.history id' hid'
  · rcases List.mem_append.1 (List.mem_of_mem_drop hid') with hid' | hid'
    · exact h.history id' hid'
    · rwa [List.mem_singleton.1 hid']

theorem Within.isActive (h : c.Within w) : c.isActive = true := by
  obtain ⟨s, -, hs⟩ := h.step
  simp [Context.isActive, h.workflow, hs]

end Context

/-- The errors that a turn in a workflow may end with: too many steps ran by themselves, an action
said to go on at a step that is not there, or a step had no way on. -/
inductive Permitted (e : Engine H) (w : Workflow) (log : CallLog H) : Error → Prop
  | stuck (step : String) : Permitted e w log (.stuck w.id step e.limits.maxAutoSteps)
  | strayed {target : String} (hend : target ≠ endTarget) (hnone : w.step? target = none)
      (hlog : CallLog.Overrides log target) : Permitted e w log (.stepNotFound w.id target)
  | unresolved {s : Step} (hs : w.step? s.id = some s) (hlacks : s.LacksCatchAll) :
      Permitted e w log (.unresolvedTransition w.id s.id)

/-- What a turn in a workflow may end with. -/
def GoesRight (e : Engine H) (w : Workflow) (log : CallLog H) :
    Except Error (Context × StepResult) → Prop
  | .ok (c, _) => c.workflowId = none ∨ c.Within w
  | .error err => Permitted e w log err

/-- A destination within a workflow, unless an action said to go there. -/
def Destination.Allowed (w : Workflow) (log : CallLog H) : Destination → Prop
  | .finish => True
  | .step id => (w.step? id).isSome ∨ id ≠ endTarget ∧ CallLog.Overrides log id

namespace Workflow

variable {w : Workflow} {s : Step}

theorem allowed_ofTarget {target : String} {log : CallLog H}
    (h : target ≠ endTarget → (w.step? target).isSome ∨ CallLog.Overrides log target) :
    (Destination.ofTarget target).Allowed w log := by
  by_cases hend : target = endTarget
  · simp [Destination.ofTarget, hend, Destination.Allowed]
  · simp only [Destination.ofTarget, hend, if_false, Destination.Allowed]
    exact (h hend).imp_right fun hlog => ⟨hend, hlog⟩

/-- A transition leads to a step of the workflow or to its end, or it lacks a branch that is always
open. -/
theorem resolve_allowed (hw : w.Sound) (hs : s ∈ w.steps) {t : Transition}
    (ht : s.next = some t ∨ s.onError = some t) (vars : Record) (log : CallLog H) :
    match t.resolve vars with
    | some d => d.Allowed w log
    | none => s.LacksCatchAll := by
  cases hresolve : t.resolve vars with
  | none => exact ⟨t, ht, Transition.lacksCatchAll_of_resolve hresolve⟩
  | some d =>
    obtain ⟨target, htarget, rfl⟩ := Transition.target_of_resolve hresolve
    exact allowed_ofTarget fun hend => .inl (hw.target s hs t ht target htarget hend)

theorem destination_allowed (hw : w.Sound) (hs : s ∈ w.steps) (c : Context) (log : CallLog H) :
    match w.destination s c with
    | .ok d => d.Allowed w log
    | .error err => err = .unresolvedTransition w.id s.id ∧ s.LacksCatchAll := by
  simp only [destination]
  cases hnext : s.next with
  | none => trivial
  | some t =>
    have hallowed := resolve_allowed hw hs (.inl hnext) c.vars log
    cases hresolve : t.resolve c.vars with
    | none =>
      rw [hresolve] at hallowed
      simpa [hresolve] using hallowed
    | some d =>
      rw [hresolve] at hallowed
      simpa [hresolve] using hallowed

/-- What the answer to an action may lead to. -/
def Settles (w : Workflow) (s : Step) (log : CallLog H) : Outcome → Prop
  | .advance next d => next.Within w ∧ d.Allowed w log
  | .refuse _ => True
  | .broken err => err = .unresolvedTransition w.id s.id ∧ s.LacksCatchAll

theorem recover_settles (hw : w.Sound) (hs : s ∈ w.steps) {c : Context} (hc : c.Within w)
    (failure : CallFailure) (data : Option Record) (log : CallLog H) :
    w.Settles s log (w.recover s c failure data) := by
  simp only [recover]
  cases honError : s.onError with
  | none => trivial
  | some t =>
    simp only
    generalize hnext : (if ((data.getD []).get? "error").isSome then c.merge (data.getD [])
      else (c.merge (data.getD [])).set "error" (.text failure.code)) = next
    have hwithin : next.Within w := by
      subst hnext
      split
      · exact hc.congr rfl rfl rfl
      · exact hc.congr rfl rfl rfl
    have hallowed := resolve_allowed hw hs (.inr honError) next.vars log
    cases hresolve : t.resolve next.vars with
    | none =>
      rw [hresolve] at hallowed
      exact ⟨rfl, hallowed⟩
    | some d =>
      rw [hresolve] at hallowed
      exact ⟨hwithin, hallowed⟩

theorem settle_settles (hw : w.Sound) (hs : s ∈ w.steps) {c : Context} (hc : c.Within w)
    (q : Call H) (x : CallResult) (log : CallLog H) :
    w.Settles s (log ++ [⟨q, x⟩]) (w.settle s c x) := by
  cases x with
  | error failure => exact recover_settles hw hs hc failure none _
  | ok report =>
    simp only [settle]
    split
    · generalize hnext : Context.merge { c with vars := c.vars.erase "error" }
        (report.data.getD []) = next
      have hwithin : next.Within w := by
        subst hnext
        exact hc.congr rfl rfl rfl
      cases hoverride : report.nextStepOverride with
      | some target =>
        -- The override is taken as it is, so all that is known of the target is who named it.
        refine ⟨hwithin, allowed_ofTarget fun _ => .inr ?_⟩
        exact ⟨⟨q, .ok report⟩, by simp, report, rfl, hoverride⟩
      | none =>
        have hallowed := destination_allowed hw hs next (log ++ [⟨q, .ok report⟩])
        cases hdestination : w.destination s next with
        | error err =>
          rw [hdestination] at hallowed
          exact hallowed
        | ok d =>
          rw [hdestination] at hallowed
          exact ⟨hwithin, hallowed⟩
    · exact recover_settles hw hs hc _ _ _

end Workflow

namespace Workflow

theorem step?_self {w : Workflow} {id : String} {s : Step} (h : w.step? id = some s) :
    w.step? s.id = some s := by
  rw [step?_id h, h]

end Workflow

namespace Engine

variable {e : Engine H} {id : String} {w : Workflow}

theorem call_yields {P : CallLog H → Except Error (Context × StepResult) → Prop}
    {c : Context} {stepId action : String} {params : Record} {input : String}
    {session : SessionRef} {next : CallResult → Turn H} {past : CallLog H}
    (hhandler : (e.actions.get? w.id action).isSome)
    (hnext : ∀ q x, Yields P (past ++ [⟨q, x⟩]) (next x)) :
    Yields P past (e.call w c stepId action params input session next) := by
  obtain ⟨h, hh⟩ := Option.isSome_iff_exists.1 hhandler
  simp only [call, hh]
  exact fun x => hnext _ x

section Sound

variable (he : e.Checked) (hget : e.registry.get? id = some w)
include he hget

/-- The end of a workflow leaves an idle context, or the snapshot if its hook fails. -/
theorem complete_yields {input : String} {session : SessionRef} {c snapshot : Context}
    {notices : List Prompt} {past : CallLog H} (hsnapshot : snapshot.Within w) :
    Yields (GoesRight e w) past (e.complete w input session c snapshot notices) := by
  simp only [complete]
  cases hhook : w.onComplete with
  | none => exact .inl rfl
  | some hook =>
    refine call_yields (he.onComplete hget hhook) fun q x => ?_
    cases x with
    | error failure => exact .inr hsnapshot
    | ok report =>
      by_cases hsuccess : report.success
      · simp only [hsuccess, if_true]
        exact .inl rfl
      · simp only [hsuccess]
        exact .inr hsnapshot

/-- An action is called; then the turn goes on within the workflow, back to the snapshot, or it ends
where the step has no way on. -/
theorem perform_yields {input : String} {session : SessionRef} {s : Step} {action : String}
    {c snapshot : Context} {go : Context → Destination → Turn H} {past : CallLog H}
    (hs : w.step? s.id = some s) (haction : s.action = some action) (hc : c.Within w)
    (hsnapshot : snapshot.Within w)
    (hgo : ∀ log next d, next.Within w → d.Allowed w (past ++ log) →
      Yields (GoesRight e w) (past ++ log) (go next d)) :
    Yields (GoesRight e w) past (e.perform w input session s action c snapshot go) := by
  have hmem := Workflow.step?_mem hs
  simp only [perform]
  refine call_yields (he.stepAction hget hmem haction) fun q x => ?_
  have hsettles := Workflow.settle_settles (he.sound hget) hmem hc q x past
  cases hsettle : w.settle s c x with
  | advance next d =>
    rw [hsettle] at hsettles
    exact hgo _ next d hsettles.1 hsettles.2
  | refuse failure => exact .inr hsnapshot
  | broken err =>
    rw [hsettle] at hsettles
    obtain ⟨rfl, hlacks⟩ := hsettles
    exact .unresolved hs hlacks

/-- The turn goes where a step leads, or it ends where the step has no way on. -/
theorem leave_yields {s : Step} {c : Context} {go : Context → Destination → Turn H}
    {past : CallLog H} (hs : w.step? s.id = some s) (hc : c.Within w)
    (hgo : ∀ log next d, next.Within w → d.Allowed w (past ++ log) →
      Yields (GoesRight e w) (past ++ log) (go next d)) :
    Yields (GoesRight e w) past
      (match w.destination s c with
        | .ok d => go c d
        | .error err => Turn.fail err) := by
  have hallowed := Workflow.destination_allowed (he.sound hget) (Workflow.step?_mem hs) c past
  cases hdestination : w.destination s c with
  | ok d =>
    rw [hdestination] at hallowed
    have h := hgo [] c d hc (by simpa using hallowed)
    simpa using h
  | error err =>
    rw [hdestination] at hallowed
    obtain ⟨rfl, hlacks⟩ := hallowed
    exact .unresolved hs hlacks

theorem runStep_yields {input : String} {session : SessionRef} {s : Step} {c snapshot : Context}
    {go : Context → Destination → Turn H} {past : CallLog H} (hs : w.step? s.id = some s)
    (hc : c.Within w) (hsnapshot : snapshot.Within w)
    (hgo : ∀ log next d, next.Within w → d.Allowed w (past ++ log) →
      Yields (GoesRight e w) (past ++ log) (go next d)) :
    Yields (GoesRight e w) past (e.runStep w input session s c snapshot go) := by
  simp only [runStep]
  split
  · rename_i action haction _
    exact perform_yields he hget hs haction hc hsnapshot hgo
  · exact leave_yields he hget hs hc hgo

omit he hget in
theorem strayed_of_allowed {target : String} {past : CallLog H}
    (hd : (Destination.step target).Allowed w past) (hnone : w.step? target = none) :
    Permitted e w past (.stepNotFound w.id target) := by
  rcases hd with hstep | ⟨hend, hlog⟩
  · simp [hnone] at hstep
  · exact .strayed hend hnone hlog

omit he hget in
theorem shown_within {s : Step} {c : Context} (hs : w.step? s.id = some s)
    (hc : c.Within w) (limit : Nat) :
    (if s.isInteractive then c.visit s.id limit else c).Within w := by
  split
  · exact hc.visit (by simp [hs]) limit
  · exact hc

/-- Going to a destination, by induction on the number of steps that may still run by themselves:
each of them leaves the context within the workflow and leads on to an allowed destination. -/
theorem follow_yields {input : String} {session : SessionRef} (budget : Nat)
    {notices : List Prompt} {snapshot c : Context} {d : Destination} {past : CallLog H}
    (hsnapshot : snapshot.Within w) (hc : c.Within w) (hd : d.Allowed w past) :
    Yields (GoesRight e w) past (e.follow w input session budget notices snapshot c d) := by
  -- Each automatic step leaves the context within the workflow and less of the budget.
  induction budget generalizing notices snapshot c d past with
  | zero =>
    cases d with
    | finish => exact complete_yields he hget hsnapshot
    | step target =>
      simp only [follow]
      cases hstep : w.step? target with
      | none => exact strayed_of_allowed hd hstep
      | some s =>
        have hs := Workflow.step?_self hstep
        simp only
        split
        · exact .stuck s.id
        · exact .inr (shown_within hs (hc.moveTo hs) _)
  | succ budget ih =>
    cases d with
    | finish => exact complete_yields he hget hsnapshot
    | step target =>
      simp only [follow]
      cases hstep : w.step? target with
      | none => exact strayed_of_allowed hd hstep
      | some s =>
        have hs := Workflow.step?_self hstep
        have hhere := hc.moveTo hs
        simp only
        split
        · -- The step runs by itself, and the turn goes on with less of the budget.
          split
          · rename_i hkind
            have hsome := (he.sound hget).kind s (Workflow.step?_mem hstep)
            rw [hkind] at hsome
            cases hsome
          · apply runStep_yields he hget hs hhere hhere
            intro log next d hnext hd
            exact ih hhere hnext hd
          · apply runStep_yields he hget hs hhere hhere
            intro log next d hnext hd
            exact ih hhere hnext hd
        · exact .inr (shown_within hs hhere _)

theorem goOn_yields {input : String} {session : SessionRef} {snapshot c : Context}
    {d : Destination} {past : CallLog H} (hsnapshot : snapshot.Within w) (hc : c.Within w)
    (hd : d.Allowed w past) :
    Yields (GoesRight e w) past (e.goOn w input session snapshot c d) :=
  follow_yields he hget _ hsnapshot hc hd

theorem begin_yields (now : Instant) (session : SessionRef) :
    Yields (GoesRight e w) [] (e.begin w now session) := by
  obtain ⟨s, hs⟩ := Option.isSome_iff_exists.1 (he.sound hget).start
  have hstart : (Context.start w.id w.startStepId now).Within w := by
    refine ⟨rfl, ⟨s, Workflow.step?_self hs, ?_⟩, ?_⟩
    · rw [Workflow.step?_id hs]
      rfl
    · intro id hid
      cases hid
  exact goOn_yields he hget hstart hstart (.inl (he.sound hget).start)

/-- Taking an answer: a refused one leaves the context where it is, an accepted one goes on. -/
theorem answer_yields {s : Step} {kind : StepKind} {c : Context} {input : String}
    {session : SessionRef} (hs : w.step? s.id = some s) (hc : c.Within w) :
    Yields (GoesRight e w) [] (e.answer w s kind c input session) := by
  simp only [answer]
  cases hcheck : s.check e.patterns kind input with
  | error reason => exact .inr (hc.congr rfl rfl rfl)
  | ok value =>
    have hset : Context.Within w { c.set s.id value with retryCount := 0 } := hc.congr rfl rfl rfl
    have hstep : (w.step? s.id).isSome := by simp [hs]
    have hkept := hset.visit hstep e.limits.historyLimit
    have hgo : ∀ (log : CallLog H) next d, next.Within w → d.Allowed w ([] ++ log) →
        Yields (GoesRight e w) ([] ++ log) (e.goOn w input session c next d) :=
      fun log next d hnext hd => goOn_yields he hget hc hnext hd
    cases haction : s.action with
    | some action => exact perform_yields he hget hs haction hkept hc hgo
    | none => exact leave_yields he hget hs hkept hgo

theorem resume_yields {s : Step} {c : Context} (input : String) (session : SessionRef)
    (hs : w.step? s.id = some s) (hc : c.Within w) :
    Yields (GoesRight e w) [] (e.resume w s c input session) := by
  have hsome := (he.sound hget).kind s (Workflow.step?_mem hs)
  obtain ⟨kind, hkind⟩ := Option.isSome_iff_exists.1 hsome
  simp only [resume, Workflow.kindOf, hkind]
  split
  · exact answer_yields he hget hs hc
  · apply runStep_yields he hget hs hc hc
    intro log next d hnext hd
    exact goOn_yields he hget hc hnext hd

omit he in
theorem locate_within {c : Context} (hc : c.Within w) :
    ∃ s, e.locate c = .ok (w, s) ∧ w.step? s.id = some s := by
  obtain ⟨s, hs, hcurrent⟩ := hc.step
  refine ⟨s, ?_, hs⟩
  have hworkflow : e.workflow w.id = .ok w := by
    rw [Registry.get?_id hget]
    simp [workflow, hget]
  simp only [locate, hc.workflow, hworkflow]
  simp [Bind.bind, Except.bind, Workflow.currentStep, hcurrent, hs]

omit he hget in
theorem withoutCurrent_subset {c : Context} {stepId id' : String}
    (h : id' ∈ withoutCurrent c stepId) : id' ∈ c.history := by
  simp only [withoutCurrent] at h
  split at h
  · exact List.dropLast_subset _ h
  · exact h

omit he in
/-- Going back within a workflow never fails and stays within it. -/
theorem goBack_within {c : Context} (hc : c.Within w) :
    ∃ next navigation, e.goBack c = .ok (next, navigation) ∧ next.Within w := by
  obtain ⟨s, hlocate, hs⟩ := locate_within hget hc
  have hearlier : Context.Within w { c with history := withoutCurrent c s.id } :=
    ⟨hc.workflow, hc.step, fun id' hid' => hc.history id' (withoutCurrent_subset hid')⟩
  simp only [goBack, hlocate, Bind.bind, Except.bind]
  split
  · exact ⟨c, .notAllowed, rfl, hc⟩
  · split
    · exact ⟨_, .notAllowed, rfl, hearlier⟩
    · -- The step to go back to comes from the history, which holds steps only.
      rename_i id' hlast
      obtain ⟨target, htarget⟩ :=
        Option.isSome_iff_exists.1 (hearlier.history id' (List.mem_of_getLast? hlast))
      rw [htarget]
      refine ⟨_, _, rfl, ?_⟩
      exact (hearlier.moveTo (Workflow.step?_self htarget)).congr rfl rfl rfl

end Sound

/-- The contexts that come of starting registered workflows, taking inputs, going back and
cancelling, in any order and whatever the actions do. The version is the store's affair. -/
inductive Reached (e : Engine H) : Context → Prop
  | idle : Reached e {}
  | started {id : String} {w : Workflow} {now : Instant} {session : SessionRef} {log : CallLog H}
      {c : Context} {result : StepResult} (hget : e.registry.get? id = some w)
      (h : After (e.start id now session) log (.done (.ok (c, result)))) : Reached e c
  | answered {c c' : Context} {input : String} {session : SessionRef} {log : CallLog H}
      {result : StepResult} (hc : Reached e c)
      (h : After (e.processInput c input session) log (.done (.ok (c', result)))) : Reached e c'
  | wentBack {c c' : Context} {navigation : Navigation} (hc : Reached e c)
      (h : e.goBack c = .ok (c', navigation)) : Reached e c'
  | cancelled {c : Context} (hc : Reached e c) : Reached e (cancel c)
  | stamped {c : Context} (hc : Reached e c) (version : Nat) : Reached e { c with version }

def Ready (e : Engine H) (c : Context) : Prop :=
  c.workflowId = none ∨ ∃ w, e.registry.get? w.id = some w ∧ c.Within w

theorem start_yields (he : e.Checked) (hget : e.registry.get? id = some w) (now : Instant)
    (session : SessionRef) : Yields (GoesRight e w) [] (e.start id now session) := by
  simp only [start, workflow, hget]
  exact begin_yields he hget now session

theorem processInput_yields (he : e.Checked) (hget : e.registry.get? w.id = some w) {c : Context}
    (hc : c.Within w) (input : String) (session : SessionRef) :
    Yields (GoesRight e w) [] (e.processInput c input session) := by
  obtain ⟨s, hlocate, hs⟩ := locate_within hget hc
  simp only [processInput, hlocate]
  exact resume_yields he hget input session hs hc

theorem locate_idle {c : Context} (hc : c.workflowId = none) :
    e.locate c = .error .noActiveWorkflow := by
  simp [locate, hc]

theorem ready_of_goesRight (hget : e.registry.get? w.id = some w) {log : CallLog H} {c : Context}
    {result : StepResult} (h : GoesRight e w log (.ok (c, result))) : e.Ready c :=
  h.imp_right fun hc => ⟨w, hget, hc⟩

/-- Every context on the way is idle or within a registered workflow. -/
theorem Reached.ready (he : e.Checked) {c : Context} (h : e.Reached c) : e.Ready c := by
  induction h with
  | idle => exact .inl rfl
  | @started id w _ _ _ _ _ hget h =>
    have hget' : e.registry.get? w.id = some w := by rwa [Registry.get?_id hget]
    exact ready_of_goesRight hget' ((start_yields he hget _ _).after h)
  | @answered c c' input session log result _ h ih =>
    rcases ih with hidle | ⟨w, hget, hc⟩
    · -- On an idle context an input fails, so there is no context after it.
      simp only [processInput, locate_idle hidle] at h
      cases (after_done_iff.1 h).2
    · exact ready_of_goesRight hget ((processInput_yields he hget hc input session).after h)
  | @wentBack c c' navigation _ h ih =>
    rcases ih with hidle | ⟨w, hget, hc⟩
    · simp [goBack, locate_idle hidle, Bind.bind, Except.bind] at h
    · obtain ⟨next, navigation', hback, hnext⟩ := goBack_within hget hc
      cases hback.symm.trans h
      exact .inr ⟨w, hget, hnext⟩
  | cancelled hc ih => exact .inl rfl
  | stamped hc version ih =>
    exact ih.imp id fun ⟨w, hget, hc⟩ => ⟨w, hget, hc.congr rfl rfl rfl⟩

/-- A checked workflow does not go wrong: whatever the actions do, a start of a registered workflow
and a turn on any context reached end with permitted errors only, and going back fails only where no
workflow is running. -/
theorem registered_sound {words : CommandWords} {autoStart : Option String} {conv : Conversation H}
    (hbuilt : e.registry.Built) (hmake : Conversation.make e words autoStart = .ok conv) :
    (∀ id w now session log err, e.registry.get? id = some w →
      After (e.start id now session) log (.done (.error err)) → Permitted e w log err) ∧
    (∀ c input session log err, e.Reached c →
      After (e.processInput c input session) log (.done (.error err)) →
        (c.isActive = false ∧ err = .noActiveWorkflow) ∨
          ∃ w, c.workflowId = some w.id ∧ e.registry.get? w.id = some w ∧ Permitted e w log err) ∧
    ∀ c err, e.Reached c → e.goBack c = .error err →
      c.isActive = false ∧ err = .noActiveWorkflow := by
  have he := checked_of_make hbuilt hmake
  refine ⟨?_, ?_, ?_⟩
  · intro id w now session log err hget h
    exact (start_yields he hget now session).after h
  · intro c input session log err hc h
    rcases hc.ready he with hidle | ⟨w, hget, hwithin⟩
    · left
      simp only [processInput, locate_idle hidle] at h
      cases (after_done_iff.1 h).2
      exact ⟨by simp [Context.isActive, hidle], rfl⟩
    · right
      have hyields := (processInput_yields he hget hwithin input session).after h
      exact ⟨w, hwithin.workflow, hget, hyields⟩
  · intro c err hc h
    rcases hc.ready he with hidle | ⟨w, hget, hwithin⟩
    · simp only [goBack, locate_idle hidle, Bind.bind, Except.bind] at h
      cases h
      exact ⟨by simp [Context.isActive, hidle], rfl⟩
    · obtain ⟨next, navigation, hback, -⟩ := goBack_within hget hwithin
      cases hback.symm.trans h

def signup : Workflow where
  id := "signup"
  startStepId := "lookup"
  steps := [
    { id := "lookup", kind := some .service, action := some "lookup", next := some (.fixed "ask") },
    { id := "ask", kind := some .input }]

def desk : Engine Unit where
  registry := ⟨[signup]⟩
  actions := { shared := [("lookup", ())] }

def astray : CallLog Unit :=
  [⟨⟨(), ⟨"signup", "lookup", [], [], "", ⟨"user", none⟩⟩⟩,
    .ok { nextStepOverride := some "nowhere" }⟩]

theorem registered_sound_astray : desk.registry.Built ∧
    Conversation.make desk {} none = .ok { engine := desk } ∧
    After (desk.start "signup" ⟨0, 0⟩ ⟨"user", none⟩) astray
      (.done (.error (.stepNotFound "signup" "nowhere"))) ∧
    Permitted desk signup astray (.stepNotFound "signup" "nowhere") := by
  have hbuilt : desk.registry.Built := Registry.built_singleton (by decide +kernel)
  have hmake : Conversation.make desk {} none = .ok { engine := desk } := rfl
  have hstart : After (desk.start "signup" ⟨0, 0⟩ ⟨"user", none⟩) astray
      (.done (.error (.stepNotFound "signup" "nowhere"))) := .cons _ (.nil _)
  have hget : desk.registry.get? "signup" = some signup := rfl
  exact ⟨hbuilt, hmake, hstart, (registered_sound hbuilt hmake).1 _ _ _ _ _ _ hget hstart⟩

end Engine

end Dialogue
