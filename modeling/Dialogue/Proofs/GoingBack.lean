import Dialogue.Proofs.Pausing
import Dialogue.Proofs.Visits

namespace Dialogue

open Interaction

variable {H : Type}

def Navigation.isMoved : Navigation → Bool
  | .moved _ => true
  | .notAllowed => false

namespace Context

/-- Whether `c'` is what stepping back leaves of `c`: the last visit is taken from the history, and
the context is at the last one left, which is another step, with no attempt counted. -/
structure StepsBack (c c' : Context) : Prop where
  lost : ∃ id, c.history = c'.history ++ [id]
  left : c'.history ≠ []
  current : c'.currentStepId = c'.history.getLast?
  elsewhere : c'.currentStepId ≠ c.currentStepId
  rest : c' = { c with
    currentStepId := c'.currentStepId, history := c'.history, retryCount := 0 }

variable {w : Workflow} {limit : Nat} {s : Step} {c c' : Context} {history : List String}
  {id : String}

theorem StepsBack.isActive (h : c.StepsBack c') (hactive : c.isActive = true) :
    c'.isActive = true := by
  obtain ⟨id, hid⟩ := Option.ne_none_iff_exists'.1 (mt List.getLast?_eq_none_iff.1 h.left)
  simp only [Context.isActive, Bool.and_eq_true] at hactive ⊢
  rw [h.current, hid, h.rest]
  exact ⟨hactive.1, rfl⟩

theorem RestsAt.within (h : c.RestsAt w limit s) : c.Within w := by
  refine ⟨h.workflow, ⟨s, h.registered, h.current⟩, fun id hid => ?_⟩
  obtain ⟨s', hs', -⟩ := h.trail.interactive id hid
  simp [hs']

/-- The visit to an interactive step comes after those to others. -/
theorem RestsAt.history_eq (h : c.RestsAt w limit s) (hinteractive : s.isInteractive = true) :
    c.history = c.history.dropLast ++ [s.id] :=
  (List.dropLast_append_getLast? _ (h.last hinteractive)).symm

/-- Of two visits at least, the one before the last was to another step. -/
theorem RestsAt.exists_earlier (h : c.RestsAt w limit s) (hinteractive : s.isInteractive = true)
    (htwo : 2 ≤ c.history.length) : ∃ target, w.step? target.id = some target ∧
      c.history.dropLast.getLast? = some target.id ∧ target.id ≠ s.id := by
  have hleft : c.history.dropLast ≠ [] := by
    intro hnil
    have hlength := congrArg List.length hnil
    rw [List.length_dropLast, List.length_nil] at hlength
    omega
  obtain ⟨id, hlast⟩ := Option.ne_none_iff_exists'.1 (mt List.getLast?_eq_none_iff.1 hleft)
  have hmem := List.dropLast_subset _ (List.mem_of_getLast? hlast)
  obtain ⟨target, htarget, -⟩ := h.trail.interactive id hmem
  have hdistinct := h.trail.distinct
  rw [h.history_eq hinteractive, List.isChain_append] at hdistinct
  obtain rfl := Workflow.step?_id htarget
  exact ⟨target, htarget, hlast, hdistinct.2.2 _ hlast _ rfl⟩

/-- Without the visit added, a history is as before, or it has lost its oldest visit if it was
full. -/
theorem dropLast_extendHistory (hlimit : 1 ≤ limit) (hlength : history.length ≤ limit)
    (hnew : history.getLast? ≠ some id) : (extendHistory limit history id).dropLast =
      if history.length < limit then history else history.tail := by
  rw [extendHistory, if_neg hnew, lastEntries, List.length_append, List.length_singleton]
  split
  · rename_i hroom
    rw [show history.length + 1 - limit = 0 by omega, List.drop_zero, List.dropLast_concat]
  · rename_i hfull
    have hne : history ≠ [] := by
      rintro rfl
      exact hfull hlimit
    rw [show history.length + 1 - limit = 1 by omega, List.drop_one,
      List.tail_append_of_ne_nil hne, List.dropLast_concat]

/-- The visit before the one added is the last one there was, even if the oldest is lost. -/
theorem getLast?_dropLast_extendHistory (hlimit : 2 ≤ limit) (hlength : history.length ≤ limit)
    (hnew : history.getLast? ≠ some id) :
    (extendHistory limit history id).dropLast.getLast? = history.getLast? := by
  rw [dropLast_extendHistory (by omega) hlength hnew]
  split
  · rfl
  · rw [List.getLast?_tail, if_neg (by omega)]

end Context

namespace Engine

variable {e : Engine H} {w w' : Workflow}

section Resting

variable {s : Step} {c : Context} {limit : Nat}

theorem restsAt_of_locate (hget : e.registry.get? w.id = some w)
    (hc : c = { version := c.version } ∨ c.WellFormed w limit)
    (hlocate : e.locate c = .ok (w', s)) : c.RestsAt w' limit s := by
  rcases hc with hempty | hwell
  · have hidle : c.workflowId = none := by rw [hempty]
    rw [locate_idle hidle] at hlocate
    cases hlocate
  · obtain ⟨s', hlocate', hs⟩ := locate_wellFormed hget hwell
    cases hlocate.symm.trans hlocate'
    exact hs

theorem exists_locate_of_goBack {c' : Context} {navigation : Navigation}
    (h : e.goBack c = .ok (c', navigation)) : ∃ w s, e.locate c = .ok (w, s) := by
  cases hlocate : e.locate c with
  | ok there => exact ⟨there.1, there.2, rfl⟩
  | error err => simp [goBack, hlocate, Bind.bind, Except.bind] at h

theorem Reached.restsAt (h : e.Reached c) (hlimit : 1 ≤ e.limits.historyLimit)
    (hlocate : e.locate c = .ok (w, s)) : c.RestsAt w e.limits.historyLimit s := by
  induction h generalizing w s with
  | idle => cases hlocate
  | @started id w₀ now session log c result hget h =>
    have hget' : e.registry.get? w₀.id = some w₀ := by rwa [Registry.get?_id hget]
    refine restsAt_of_locate hget' (((after_start_iff hget).1 h).wellFormed hlimit ?_) hlocate
    exact ⟨⟨rfl, .nil, rfl⟩, by simp⟩
  | @answered c c' input session log result hc h ih =>
    obtain ⟨w₀, s₀, hlocate₀⟩ := exists_locate h
    have hs₀ := ih hlocate₀
    have hends := (after_processInput_iff hlocate₀).1 h
    exact restsAt_of_locate (locate_eq_ok_iff.1 hlocate₀).1
      (hends.wellFormed hlimit ⟨hs₀, s₀, hs₀⟩) hlocate
  | @wentBack c c' navigation hc h ih =>
    obtain ⟨w₀, s₀, hlocate₀⟩ := exists_locate_of_goBack h
    have hget := (locate_eq_ok_iff.1 hlocate₀).1
    exact restsAt_of_locate hget (.inr (goBack_wellFormed hget ⟨s₀, ih hlocate₀⟩ h)) hlocate
  | cancelled hc ih => cases hlocate
  | stamped hc version ih =>
    have hs := ih hlocate
    exact ⟨hs.workflow, hs.registered, hs.current, hs.trail, hs.last, hs.retries⟩

theorem allowBack_prompt_iff {error : Option Reason} : (w.prompt s c error).allowBack = true ↔
    s.allowBack = true ∧ s.isInteractive = true ∧ 2 ≤ c.history.length := by
  simp [Workflow.prompt, and_assoc]

theorem goBack_closed (hlocate : e.locate c = .ok (w, s))
    (h : ¬ (w.prompt s c none).allowBack = true) : e.goBack c = .ok (c, .notAllowed) := by
  have hclosed : (!s.allowBack || !s.isInteractive || decide (c.history.length < 2)) = true := by
    by_contra hopen
    simp only [Bool.or_eq_true, Bool.not_eq_true', decide_eq_true_eq, not_or, Bool.not_eq_false,
      Nat.not_lt, and_assoc] at hopen
    exact h (allowBack_prompt_iff.2 hopen)
  simp only [goBack, hlocate, Bind.bind, Except.bind]
  rw [if_pos hclosed]

/-- Where it is offered, it leads to the step visited before. -/
theorem goBack_open {target : Step} (hs : c.RestsAt w limit s) (hlocate : e.locate c = .ok (w, s))
    (h : (w.prompt s c none).allowBack = true) (htarget : w.step? target.id = some target)
    (hlast : c.history.dropLast.getLast? = some target.id) (there : Context)
    (hthere : there = { c with
      currentStepId := some target.id, history := c.history.dropLast, retryCount := 0 }) :
    e.goBack c = .ok (there, .moved (w.prompt target there none)) := by
  obtain ⟨hback, hinteractive, htwo⟩ := allowBack_prompt_iff.1 h
  have hearlier : withoutCurrent c s.id = c.history.dropLast := by
    rw [withoutCurrent, if_pos (hs.last hinteractive)]
  subst hthere
  simp [goBack, hlocate, Bind.bind, Except.bind, hback, hinteractive, Nat.not_lt.2 htwo, hearlier,
    hlast, htarget, Context.moveTo]

end Resting

/-- Some ways back one after the other, with what came of each. -/
inductive Retreat (e : Engine H) : Context → List Navigation → Context → Prop
  | nil (c : Context) : Retreat e c [] c
  | cons {c c₁ c' : Context} {navigation : Navigation} {navigations : List Navigation}
      (h : e.goBack c = .ok (c₁, navigation)) (hrest : Retreat e c₁ navigations c') :
      Retreat e c (navigation :: navigations) c'

section Retreats

variable {e : Engine H} {c c' : Context} {navigations : List Navigation}

/-- What going back does: it steps back to a step of the workflow if that is offered, and else it
leaves everything as it is. -/
def GoesBack (e : Engine H) (w : Workflow) (s : Step) (c : Context) : Prop :=
  if (w.prompt s c none).allowBack then
    ∃ c' target, e.goBack c = .ok (c', .moved (w.prompt target c' none)) ∧
      w.step? target.id = some target ∧ c'.currentStepId = some target.id ∧ c.StepsBack c'
  else e.goBack c = .ok (c, .notAllowed)

theorem Reached.goesBack (hbuilt : e.registry.Built) (h : e.Reached c)
    (hactive : c.isActive = true) : ∃ w s, e.locate c = .ok (w, s) ∧ e.GoesBack w s c := by
  obtain hidle | ⟨w, hget, hwithin⟩ := h.ready_of_built hbuilt
  · simp [Context.isActive, hidle] at hactive
  obtain ⟨s, hlocate, -⟩ := locate_within hget hwithin
  refine ⟨w, s, hlocate, ?_⟩
  rw [GoesBack]
  split
  · rename_i hopen
    obtain ⟨-, hinteractive, htwo⟩ := allowBack_prompt_iff.1 hopen
    have hlimit := h.length_history_le
    have hs := h.restsAt (by omega) hlocate
    obtain ⟨target, htarget, hlast, hne⟩ := hs.exists_earlier hinteractive htwo
    refine ⟨_, target, goBack_open hs hlocate hopen htarget hlast _ rfl, htarget, rfl, ?_⟩
    refine ⟨⟨s.id, hs.history_eq hinteractive⟩, ?_, hlast.symm, ?_, rfl⟩
    · rintro (hnil : c.history.dropLast = [])
      rw [hnil] at hlast
      cases hlast
    · rw [hs.current]
      exact fun hsame => hne (Option.some.inj hsame)
  · rename_i hclosed
    exact goBack_closed hlocate hclosed

theorem Reached.goBack_cases (hbuilt : e.registry.Built) (h : e.Reached c)
    (hactive : c.isActive = true) :
    e.goBack c = .ok (c, .notAllowed) ∨
      ∃ c' prompt, e.goBack c = .ok (c', .moved prompt) ∧ c.StepsBack c' := by
  obtain ⟨w, s, -, hgoes⟩ := h.goesBack hbuilt hactive
  rw [GoesBack] at hgoes
  split at hgoes
  · obtain ⟨c', target, hmoves, -, -, hsteps⟩ := hgoes
    exact .inr ⟨c', _, hmoves, hsteps⟩
  · exact .inl hgoes

/-- Each way back that leads somewhere uses up a visit, and the first visit stays. -/
theorem Retreat.history (hbuilt : e.registry.Built) (hretreat : e.Retreat c navigations c')
    (h : e.Reached c) (hactive : c.isActive = true) :
    c'.history.length + navigations.countP Navigation.isMoved = c.history.length ∧
      c'.history <+: c.history ∧ (c.history ≠ [] → c'.history ≠ []) := by
  induction hretreat with
  | nil c => exact ⟨rfl, List.prefix_refl _, id⟩
  | @cons c c₁ c' navigation navigations hback hrest ih =>
    rcases h.goBack_cases hbuilt hactive with hstays | ⟨c₂, prompt, hmoves, hsteps⟩
    · cases hback.symm.trans hstays
      exact ih h hactive
    · cases hback.symm.trans hmoves
      obtain ⟨hlength, hprefix, hleft⟩ := ih (.wentBack h hback) (hsteps.isActive hactive)
      obtain ⟨id, hlost⟩ := hsteps.lost
      refine ⟨?_, ?_, fun _ => hleft hsteps.left⟩
      · rw [hlost, List.length_append, List.length_singleton, ← hlength, List.countP_cons]
        rfl
      · rw [hlost]
        exact hprefix.trans (List.prefix_append _ _)

/-- Any number of ways back can be taken. -/
theorem Reached.exists_retreat (hbuilt : e.registry.Built) (h : e.Reached c)
    (hactive : c.isActive = true) (n : Nat) :
    ∃ navigations c', navigations.length = n ∧ e.Retreat c navigations c' := by
  induction n generalizing c with
  | zero => exact ⟨[], c, rfl, .nil c⟩
  | succ n ih =>
    rcases h.goBack_cases hbuilt hactive with hstays | ⟨c₁, prompt, hmoves, hsteps⟩
    · obtain ⟨navigations, c', rfl, hretreat⟩ := ih h hactive
      exact ⟨_, c', rfl, .cons hstays hretreat⟩
    · obtain ⟨navigations, c', rfl, hretreat⟩ :=
        ih (.wentBack h hmoves) (hsteps.isActive hactive)
      exact ⟨_, c', rfl, .cons hmoves hretreat⟩

/-- Going back is safe and makes progress. On an active context reached it never fails: it steps
back where the prompt offers that, and else it changes nothing. So of any number of ways back, one
after the other, fewer lead somewhere than there were visits, and the history never becomes
empty. -/
theorem goBack_progresses (hbuilt : e.registry.Built) (h : e.Reached c)
    (hactive : c.isActive = true) :
    (∃ w s, e.locate c = .ok (w, s) ∧ e.GoesBack w s c) ∧
    (∀ n, ∃ navigations c', navigations.length = n ∧ e.Retreat c navigations c') ∧
    ∀ navigations c', e.Retreat c navigations c' →
      navigations.countP Navigation.isMoved ≤ c.history.length - 1 ∧
        c'.history = c.history.take (c.history.length - navigations.countP Navigation.isMoved) ∧
        (c.history ≠ [] → c'.history ≠ []) := by
  refine ⟨h.goesBack hbuilt hactive, h.exists_retreat hbuilt hactive, ?_⟩
  intro navigations c' hretreat
  obtain ⟨hlength, hprefix, hleft⟩ := hretreat.history hbuilt h hactive
  refine ⟨?_, ?_, hleft⟩
  · by_cases hempty : c.history = []
    · rw [hempty, List.length_nil] at hlength ⊢
      omega
    · have hpos := List.length_pos_iff.2 (hleft hempty)
      omega
  · rw [List.prefix_iff_eq_take.1 hprefix, ← hlength, Nat.add_sub_cancel]

/-- After one answer there is one way back, to the first question. -/
theorem goBack_progresses_interview : interviewer.registry.Built ∧ interviewer.Reached askedTown ∧
    askedTown.isActive = true ∧
    ∃ c prompt, interviewer.goBack askedTown = .ok (c, .moved prompt) ∧ askedTown.StepsBack c ∧
      ∀ navigations c', interviewer.Retreat askedTown navigations c' →
        navigations.countP Navigation.isMoved ≤ 1 := by
  have hbuilt : interviewer.registry.Built := Registry.built_singleton (by decide +kernel)
  have hstart : After (interviewer.start "interview" ⟨0, 0⟩ ⟨"user", none⟩) []
      (.done (.ok (askedName,
        .awaitingInput (interview.prompt interview.steps[0] askedName none) []))) := .nil _
  have hanswer : After (interviewer.processInput askedName "Ada" ⟨"user", none⟩) []
      (.done (.ok (askedTown,
        .awaitingInput (interview.prompt interview.steps[1] askedTown none) []))) := .nil _
  have hreached : interviewer.Reached askedTown :=
    .answered (.started (w := interview) rfl hstart) hanswer
  have hactive : askedTown.isActive = true := rfl
  obtain ⟨⟨w, s, hlocate, hgoes⟩, -, hall⟩ := goBack_progresses hbuilt hreached hactive
  have hthere : interviewer.locate askedTown = .ok (interview, interview.steps[1]) := rfl
  cases hlocate.symm.trans hthere
  have hoffered : (interview.prompt interview.steps[1] askedTown none).allowBack = true := rfl
  rw [GoesBack, if_pos hoffered] at hgoes
  obtain ⟨c, target, hmoves, -, -, hsteps⟩ := hgoes
  exact ⟨hbuilt, hreached, hactive, c, _, hmoves, hsteps,
    fun navigations c' hretreat => (hall _ _ hretreat).1⟩

end Retreats

/-- A turn with an input and, as long as a paused message ends it, another turn with the empty
input, whatever the actions answer: the context left at last, and the last result. -/
inductive Onward (e : Engine H) : Context → String → Context → StepResult → Prop
  | last {c c' : Context} {input : String} {session : SessionRef} {log : CallLog H} {r : StepResult}
      (hturn : After (e.processInput c input session) log (.done (.ok (c', r)))) :
      Onward e c input c' r
  | more {c c₁ c' : Context} {input : String} {session : SessionRef} {log : CallLog H}
      {r₁ r : StepResult}
      (hturn : After (e.processInput c input session) log (.done (.ok (c₁, r₁))))
      (hpaused : r₁.isPaused = true) (hrest : Onward e c₁ "" c' r) : Onward e c input c' r

section Onwards

variable {e : Engine H} {w w' : Workflow} {a b s : Step} {c c' : Context} {input : String}
  {prompt : Prompt} {notices : List Prompt}

theorem Shows.visited (h : e.Shows c prompt) (hlocate : e.locate c = .ok (w, s)) :
    prompt.visited = s.visited := by
  obtain ⟨w', s', hlocate', hexpects⟩ := h.expectsInput
  cases hlocate.symm.trans hlocate'
  obtain ⟨-, -, -, hcurrent⟩ := locate_eq_ok_iff.1 hlocate
  rw [Prompt.visited, Step.visited, hexpects, Option.some.inj (h.step.symm.trans hcurrent)]

theorem Onward.reached {r : StepResult} (h : e.Onward c input c' r) (hreached : e.Reached c) :
    e.Reached c' := by
  induction h with
  | last hturn => exact .answered hreached hturn
  | more hturn hpaused hrest ih => exact ih (.answered hreached hturn)

/-- From a question to the next one nothing is visited but the two, by induction on the messages
continued. -/
theorem Onward.leaves (h : e.Onward c input c' (.awaitingInput prompt notices))
    (hlimit : 1 ≤ e.limits.historyLimit) (hreached : e.Reached c)
    (hlocate : e.locate c = .ok (w, a)) :
    e.Shows c' prompt ∧
      c'.lasting = c.lasting.visitAll e.limits.historyLimit (a.visited ++ prompt.visited) := by
  generalize hr : StepResult.awaitingInput prompt notices = r at h
  induction h generalizing w a with
  | last hturn =>
    subst hr
    have hget := (locate_eq_ok_iff.1 hlocate).1
    have hwithin := (hreached.restsAt hlimit hlocate).within
    exact ⟨(processInput_describes hget hwithin hturn).1.2,
      (Opens.input _ hlocate).leaves hturn⟩
  | @more c c₁ c' input session log r₁ r hturn hpaused hrest ih =>
    cases r₁ with
    | awaitingInput message notices₁ =>
      have hget := (locate_eq_ok_iff.1 hlocate).1
      have hwithin := (hreached.restsAt hlimit hlocate).within
      have hshows : e.Shows c₁ message := (processInput_describes hget hwithin hturn).1.2
      obtain ⟨w₁, s₁, hlocate₁, -⟩ := hshows.expectsInput
      have hfirst : c₁.lasting = c.lasting.visitAll e.limits.historyLimit
          (a.visited ++ message.visited) := (Opens.input input hlocate).leaves hturn
      -- The message is no visit, neither when it is shown nor when it is continued.
      have hnone : message.visited = [] := by
        simpa [StepResult.isPaused, Prompt.visited] using hpaused
      obtain ⟨hlast, hmore⟩ := ih (.answered hreached hturn) hlocate₁ hr
      refine ⟨hlast, ?_⟩
      rw [hmore, hfirst, ← hshows.visited hlocate₁, hnone, List.append_nil, List.nil_append,
        Context.visitAll_append]
    | validationError reason prompt₁ attempt => cases hpaused
    | serviceError stepId failure => cases hpaused
    | completed finalData notices₁ message => cases hpaused

/-- So of the two only the second one is added to the history, which ends with the first when that
is answered. -/
theorem Onward.history (h : e.Onward c input c' (.awaitingInput prompt notices))
    (hlimit : 1 ≤ e.limits.historyLimit) (hreached : e.Reached c)
    (hlocate : e.locate c = .ok (w, a)) (hasks : a.isInteractive = true)
    (hlocate' : e.locate c' = .ok (w', b)) (hasks' : b.isInteractive = true) :
    c'.history = Context.extendHistory e.limits.historyLimit c.history b.id ∧ w' = w := by
  obtain ⟨hshows, hlasting⟩ := h.leaves hlimit hreached hlocate
  rw [hshows.visited hlocate', Step.visited, if_pos hasks, Step.visited, if_pos hasks'] at hlasting
  constructor
  · have hsame : Context.extendHistory e.limits.historyLimit c.history a.id = c.history :=
      if_pos ((hreached.restsAt hlimit hlocate).last hasks)
    have hadded : c'.history = (c.visitAll e.limits.historyLimit [a.id, b.id]).history :=
      Context.history_eq_of_lasting hlasting
    simpa [Context.visitAll, hsame] using hadded
  · have hworkflow : c'.lasting.workflowId = c.workflowId := by
      rw [hlasting]
      rfl
    obtain ⟨hget, hid, -, -⟩ := locate_eq_ok_iff.1 hlocate
    obtain ⟨hget', hid', -, -⟩ := locate_eq_ok_iff.1 hlocate'
    have hsame : w'.id = w.id := Option.some.inj (hid'.symm.trans (hworkflow.trans hid))
    rw [hsame, hget] at hget'
    exact (Option.some.inj hget').symm

/-- Going back undoes an answer. If an answer at one question led, over any number of messages
continued, to another question that offers the way back, then going back leads to the first one
again, with the history it had, or without its oldest visit if it was full, and with all that was
collected since. -/
theorem goBack_undoes_answer (hlimit : 2 ≤ e.limits.historyLimit) (hreached : e.Reached c)
    (hlocate : e.locate c = .ok (w, a)) (hasks : a.isInteractive = true)
    (h : e.Onward c input c' (.awaitingInput prompt notices))
    (hlocate' : e.locate c' = .ok (w', b)) (hasks' : b.isInteractive = true)
    (hback : b.allowBack = true) (hne : b.id ≠ a.id) :
    ∃ there, e.goBack c' = .ok (there, .moved (w.prompt a there none)) ∧
      there = { c' with
        currentStepId := some a.id
        history := if c.history.length < e.limits.historyLimit then c.history else c.history.tail
        retryCount := 0 } := by
  have hone : 1 ≤ e.limits.historyLimit := by omega
  have hs := hreached.restsAt hone hlocate
  have hs' := (h.reached hreached).restsAt hone hlocate'
  obtain ⟨hhistory, rfl⟩ := h.history hone hreached hlocate hasks hlocate' hasks'
  have hnew : c.history.getLast? ≠ some b.id := by
    rw [hs.last hasks]
    exact fun hsame => hne (Option.some.inj hsame).symm
  have hdrop := Context.dropLast_extendHistory hone hs.trail.length hnew
  have hlast := Context.getLast?_dropLast_extendHistory hlimit hs.trail.length hnew
  rw [← hhistory] at hdrop hlast
  rw [hs.last hasks] at hlast
  have htwo : 2 ≤ c'.history.length := by
    have hpos := List.length_pos_of_mem (List.mem_of_getLast? hlast)
    rw [List.length_dropLast] at hpos
    omega
  have hopen : (w'.prompt b c' none).allowBack = true :=
    allowBack_prompt_iff.2 ⟨hback, hasks', htwo⟩
  refine ⟨_, goBack_open hs' hlocate' hopen hs.registered hlast _ rfl, ?_⟩
  rw [hdrop]

end Onwards

/-- A workflow of three questions, with a message to be continued before the last one. -/
def reception : Workflow where
  id := "reception"
  startStepId := "name"
  steps := [
    { id := "name", kind := some .input, next := some (.fixed "room") },
    { id := "room", kind := some .input, next := some (.fixed "notice") },
    { id := "notice", kind := some .message, pause := true, next := some (.fixed "key") },
    { id := "key", kind := some .input }]

def receptionist : Engine Unit where
  registry := ⟨[reception]⟩
  actions := {}
  limits := { historyLimit := 2 }

def atName : Context where
  workflowId := some "reception"
  currentStepId := some "name"
  history := ["name"]
  startedAt := some ⟨0, 0⟩

def atRoom : Context :=
  { atName with
    currentStepId := some "room"
    vars := [("name", .text (Text.trim "Ada"))]
    history := ["name", "room"] }

def atNotice : Context :=
  { atRoom with
    currentStepId := some "notice"
    vars := [("name", .text (Text.trim "Ada")), ("room", .text (Text.trim "12"))] }

def atKey : Context :=
  { atNotice with currentStepId := some "key", history := ["room", "key"] }

/-- From the last question there is a way back to the room, although the name has been dropped from
the history. -/
theorem goBack_undoes_answer_reception : receptionist.Reached atRoom ∧
    receptionist.locate atRoom = .ok (reception, reception.steps[1]) ∧
    receptionist.Onward atRoom "12" atKey
      (.awaitingInput (reception.prompt reception.steps[3] atKey none) []) ∧
    receptionist.locate atKey = .ok (reception, reception.steps[3]) ∧
    ∃ there, receptionist.goBack atKey =
        .ok (there, .moved (reception.prompt reception.steps[1] there none)) ∧
      there = { atKey with
        currentStepId := some "room"
        history := if atRoom.history.length < 2 then atRoom.history else atRoom.history.tail
        retryCount := 0 } := by
  have hstart : After (receptionist.start "reception" ⟨0, 0⟩ ⟨"user", none⟩) []
      (.done (.ok (atName,
        .awaitingInput (reception.prompt reception.steps[0] atName none) []))) := .nil _
  have hname : After (receptionist.processInput atName "Ada" ⟨"user", none⟩) []
      (.done (.ok (atRoom,
        .awaitingInput (reception.prompt reception.steps[1] atRoom none) []))) := .nil _
  have hroom : After (receptionist.processInput atRoom "12" ⟨"user", none⟩) []
      (.done (.ok (atNotice,
        .awaitingInput (reception.prompt reception.steps[2] atNotice none) []))) := .nil _
  have hnotice : After (receptionist.processInput atNotice "" ⟨"user", none⟩) []
      (.done (.ok (atKey,
        .awaitingInput (reception.prompt reception.steps[3] atKey none) []))) := .nil _
  have hreached : receptionist.Reached atRoom :=
    .answered (.started (w := reception) rfl hstart) hname
  have honward : receptionist.Onward atRoom "12" atKey
      (.awaitingInput (reception.prompt reception.steps[3] atKey none) []) :=
    .more hroom rfl (.last hnotice)
  have hlocate : receptionist.locate atRoom = .ok (reception, reception.steps[1]) := rfl
  have hlocate' : receptionist.locate atKey = .ok (reception, reception.steps[3]) := rfl
  exact ⟨hreached, hlocate, honward, hlocate',
    goBack_undoes_answer (by decide) hreached hlocate rfl honward hlocate' rfl rfl (by decide)⟩

end Engine

end Dialogue
