import Dialogue.Conversation.Basic
import Dialogue.Proofs.Transcript

namespace Dialogue

open Interaction

variable {H : Type}

/-- What a conversation asked and what it was told. -/
abbrev Transcript (H : Type) := List (Entry (Query.Answer (H := H)))

namespace Query

def IsQuiet : Query H → Prop
  | .call _ | .now | .note _ => True
  | .load _ | .save _ _ _ | .clear _ => False

/-- Whether a question is about one session, and a save of it about the next version. -/
def IsAbout (key : String) : Query H → Prop
  | .load k | .clear k => k = key
  | .save k next expected => k = key ∧ next.version = expected.getD 0 + 1
  | .call _ | .now | .note _ => True

theorem IsQuiet.isAbout {q : Query H} (h : q.IsQuiet) (key : String) : q.IsAbout key := by
  cases q with
  | call _ | now | note _ => trivial
  | load _ | save _ _ _ | clear _ => exact h.elim

theorem nonempty_answer (q : Query H) : Nonempty q.Answer := by
  cases q with
  | load _ => exact ⟨.ok none⟩
  | save _ _ _ | clear _ => exact ⟨.ok ()⟩
  | call _ => exact ⟨.ok {}⟩
  | now => exact ⟨⟨0, 0⟩⟩
  | note _ => exact ⟨()⟩

end Query

namespace Interaction.Entry

/-- Whether a question changed what is stored. -/
def wrote : Entry (Query.Answer (H := H)) → Bool
  | ⟨.save _ _ _, .ok _⟩ | ⟨.clear _, .ok _⟩ => true
  | _ => false

end Interaction.Entry

namespace Transcript

/-- A transcript without a question that changed what is stored. -/
def Writeless (log : Transcript H) : Prop := ∀ e ∈ log, e.wrote = false

@[simp]
theorem writeless_nil : Writeless ([] : Transcript H) := by
  intro e he
  cases he

@[simp]
theorem writeless_cons_iff {e : Entry (Query.Answer (H := H))} {log : Transcript H} :
    Writeless (e :: log) ↔ e.wrote = false ∧ log.Writeless :=
  List.forall_mem_cons

@[simp]
theorem writeless_append_iff {l₁ l₂ : Transcript H} :
    Writeless (l₁ ++ l₂) ↔ l₁.Writeless ∧ l₂.Writeless :=
  List.forall_mem_append

theorem Writeless.of_quiet {log : Transcript H} (h : ∀ e ∈ log, e.question.IsQuiet) :
    log.Writeless := by
  intro e he
  have hquiet := h e he
  obtain ⟨q, x⟩ := e
  cases q with
  | call _ | now | note _ => rfl
  | load _ | save _ _ _ | clear _ => exact hquiet.elim

/-- A question the store has a part in comes after all that was quiet before. -/
theorem split_of_quiet {l log l₁ rest : Transcript H} {e : Entry (Query.Answer (H := H))}
    (hl : ∀ e ∈ l, e.question.IsQuiet) (he : ¬ e.question.IsQuiet)
    (h : l ++ log = l₁ ++ e :: rest) : ∃ m, l₁ = l ++ m ∧ log = m ++ e :: rest := by
  rcases List.append_eq_append_iff.1 h with ⟨m, hl₁, hlog⟩ | ⟨m, hl', hrest⟩
  · exact ⟨m, hl₁, hlog⟩
  cases m with
  | nil => exact ⟨[], by simpa using hl'.symm, by simpa using hrest.symm⟩
  | cons e' m =>
    obtain ⟨rfl, rfl⟩ := List.cons.inj hrest
    exact (he (hl e (by simp [hl']))).elim

end Transcript

namespace Conversation

variable {α : Type} (c : Conversation H) (session : SessionRef)

/-- Whether a reply that is given satisfies `R`. -/
def Replies (R : Reply → Prop) (applied : Applied) : Prop :=
  ∀ next reply, applied = .ok (next, reply) → R reply

theorem stepped_replies (result : Except Error (Context × StepResult)) :
    Replies (fun reply => ∃ result, reply = .step result) (stepped result) := by
  intro next reply h
  cases result with
  | error e => cases h
  | ok r =>
    cases h
    exact ⟨r.2, rfl⟩

theorem toExchange_quiet (p : Calling H α) :
    (Calling.toExchange p).Holds Query.IsQuiet fun _ => True := by
  induction p with
  | done a => trivial
  | ask q resume ih => exact ⟨trivial, ih⟩

theorem noted_quiet (w : Workflow) (t : Turn H) :
    (noted w t).Holds Query.IsQuiet fun _ => True := by
  refine (toExchange_quiet t).bind fun result _ => ?_
  cases noteOf w result with
  | none => trivial
  | some n => exact ⟨trivial, fun _ => trivial⟩

/-- A start asks the store nothing and shows a step. -/
theorem start_quiet (id : String) : (c.start session id).Holds Query.IsQuiet
    (Replies fun reply => ∃ result, reply = .step result) := by
  simp only [start]
  cases c.engine.workflow id with
  | error e =>
    intro next reply h
    cases h
  | ok w =>
    refine ⟨trivial, fun now => ?_⟩
    exact (noted_quiet w _).bind fun result _ => stepped_replies result

/-- Going back asks the store nothing and shows where that leads. -/
theorem back_quiet (context : Context) : (c.back context).Holds Query.IsQuiet
    (Replies fun reply => ∃ navigation, reply = .back navigation) := by
  simp only [back]
  split
  · split
    · intro next reply h
      cases h
    · intro next reply h
      cases h
      exact ⟨_, rfl⟩
    · refine ⟨trivial, fun _ => ?_⟩
      intro next reply h
      cases h
      exact ⟨_, rfl⟩
  · intro next reply h
    cases h
    exact ⟨_, rfl⟩

theorem restart_quiet (id : String) :
    (c.start session id).Holds Query.IsQuiet fun _ => True :=
  (c.start_quiet session id).mono (fun _ hq => hq) fun _ _ => trivial

theorem obey_quiet (context : Context) (command : Command) :
    (c.obey session context command).Holds Query.IsQuiet fun _ => True := by
  cases command with
  | back => trivial
  | cancel => trivial
  | restart => exact c.restart_quiet session _

theorem advance_quiet (context : Context) (text : String) :
    (c.advance session context text).Holds Query.IsQuiet fun _ => True := by
  simp only [advance]
  split
  · trivial
  · exact (noted_quiet _ _).bind fun _ _ => trivial

theorem input_quiet (context : Context) (text : String) :
    (c.input session context text).Holds Query.IsQuiet fun _ => True := by
  simp only [input]
  split
  · split
    · trivial
    · exact ⟨trivial, fun _ => c.obey_quiet session context _⟩
    · exact c.advance_quiet session context text
  · split
    · exact c.restart_quiet session _
    · trivial

/-- Applying a request asks the store nothing. -/
theorem apply_quiet (context : Context) (r : TurnRequest) :
    (c.apply session context r).Holds Query.IsQuiet fun _ => True := by
  cases r with
  | start id => exact c.restart_quiet session id
  | input text => exact c.input_quiet session context text
  | back => exact (c.back_quiet context).mono (fun _ hq => hq) fun _ _ => trivial

/-- How a trial ends: the call is over, or somebody else saved first while some workflow ran. -/
inductive Verdict where
  | closed (result : Except Error Reply)
  | conflict (running : Option String) (e : Error)

/-- A context as it is saved in the place of what was loaded. -/
def stamped (stored : Option Context) (next : Context) : Context :=
  { next with version := (stored.map (·.version)).getD 0 + 1 }

abbrev saving (stored : Option Context) (next : Context) (x : Except Error Unit) :
    Entry (Query.Answer (H := H)) :=
  ⟨.save session.key (stamped stored next) (stored.map (·.version)), x⟩

def submit (stored : Option Context) : Applied → Exchange H Verdict
  | .error e => .done (.closed (.error e))
  | .ok (none, reply) => .done (.closed (.ok reply))
  | .ok (some next, reply) =>
    .ask (.save session.key (stamped stored next) (stored.map (·.version))) fun
      | .ok () => .done (.closed (.ok reply))
      | .error e =>
        if e.isConflict then
          .ask (.note .conflict) fun _ => .done (.conflict (stored.getD {}).workflowId e)
        else .done (.closed (.error e))

/-- Loads a session, applies a request and saves what came of it. -/
def trial (r : TurnRequest) : Exchange H Verdict :=
  .ask (.load session.key) fun
    | .error e => .done (.closed (.error e))
    | .ok stored => (c.apply session (stored.getD {}) r).bind (submit session stored)

def following (onConflict : Option String → Error → Exchange H (Except Error Reply)) :
    Verdict → Exchange H (Except Error Reply)
  | .closed result => .done result
  | .conflict running e => onConflict running e

theorem attempt_eq (r : TurnRequest)
    (onConflict : Option String → Error → Exchange H (Except Error Reply)) :
    c.attempt session r onConflict = (c.trial session r).bind (following onConflict) := by
  simp only [attempt, trial, Interaction.bind]
  refine congrArg (Interaction.ask _) (funext fun loaded => ?_)
  cases loaded with
  | error e => rfl
  | ok stored =>
    rw [Interaction.bind_assoc]
    change Interaction.bind (c.apply session (stored.getD {}) r) _ = _
    refine congrArg (Interaction.bind _) (funext fun applied => ?_)
    -- The request failed, had nothing to save, or is saved with one of two answers.
    obtain e | ⟨_ | next, reply⟩ := applied
    · rfl
    · rfl
    · refine congrArg (Interaction.ask _) (funext fun saved => ?_)
      cases saved with
      | ok u => rfl
      | error e =>
        by_cases he : e.isConflict
        · simp only [Interaction.bind, he]
          rfl
        · simp only [Interaction.bind, he]
          rfl

/-- The second trial of a turn, after which it gives up. -/
def retrial (r : TurnRequest) : Exchange H (Except Error Reply) :=
  (c.trial session r).bind (following fun _ e => .done (.error e))

def proceed (r : TurnRequest) : Verdict → Exchange H (Except Error Reply)
  | .closed result => .done result
  | .conflict running e =>
    .ask (.load session.key) fun
      | .error e' => .done (.error e')
      | .ok current =>
        if current.bind (·.workflowId) = running then c.retrial session r else .done (.error e)

theorem turn_eq (r : TurnRequest) :
    c.turn session r = (c.trial session r).bind (c.proceed session r) := by
  rw [turn, attempt_eq]
  refine congrArg (Interaction.bind _) (funext fun verdict => ?_)
  cases verdict with
  | closed result => rfl
  | conflict running e =>
    refine congrArg (Interaction.ask _) (funext fun loaded => ?_)
    cases loaded with
    | error e' => rfl
    | ok current =>
      simp only [retrial, ← attempt_eq]
      rfl

/-- A request applied to what was loaded, with what was asked meanwhile and what came of it. -/
def Applies (r : TurnRequest) (stored : Option Context) (log : Transcript H)
    (applied : Applied) : Prop :=
  After (c.apply session (stored.getD {}) r) log (.done applied)

variable {c session} {r : TurnRequest}

theorem Applies.quiet {stored : Option Context} {log : Transcript H} {applied : Applied}
    (h : c.Applies session r stored log applied) : ∀ e ∈ log, e.question.IsQuiet :=
  ((c.apply_quiet session _ r).after h).2

theorem Applies.writeless {stored : Option Context} {log : Transcript H} {applied : Applied}
    (h : c.Applies session r stored log applied) : log.Writeless :=
  .of_quiet h.quiet

/-- The transcripts of a trial by the way it ends. -/
inductive Tried (c : Conversation H) (session : SessionRef) (r : TurnRequest) :
    Transcript H → Verdict → Prop
  | unread (e : Error) : Tried c session r [⟨.load session.key, .error e⟩] (.closed (.error e))
  | failed {stored : Option Context} {l : Transcript H} {e : Error}
      (happlies : c.Applies session r stored l (.error e)) :
      Tried c session r (⟨.load session.key, .ok stored⟩ :: l) (.closed (.error e))
  | rested {stored : Option Context} {l : Transcript H} {reply : Reply}
      (happlies : c.Applies session r stored l (.ok (none, reply))) :
      Tried c session r (⟨.load session.key, .ok stored⟩ :: l) (.closed (.ok reply))
  | saved {stored : Option Context} {l : Transcript H} {next : Context} {reply : Reply}
      (happlies : c.Applies session r stored l (.ok (some next, reply))) :
      Tried c session r
        (⟨.load session.key, .ok stored⟩ :: (l ++ [saving session stored next (.ok ())]))
        (.closed (.ok reply))
  | refused {stored : Option Context} {l : Transcript H} {next : Context} {reply : Reply}
      {e : Error} (happlies : c.Applies session r stored l (.ok (some next, reply)))
      (he : e.isConflict = false) :
      Tried c session r
        (⟨.load session.key, .ok stored⟩ :: (l ++ [saving session stored next (.error e)]))
        (.closed (.error e))
  | overtaken {stored : Option Context} {l : Transcript H} {next : Context} {reply : Reply}
      {e : Error} (happlies : c.Applies session r stored l (.ok (some next, reply)))
      (he : e.isConflict = true) :
      Tried c session r
        (⟨.load session.key, .ok stored⟩ ::
          (l ++ [saving session stored next (.error e), ⟨.note .conflict, ()⟩]))
        (.conflict (stored.getD {}).workflowId e)

theorem tried_iff {log : Transcript H} {v : Verdict} :
    After (c.trial session r) log (.done v) ↔ Tried c session r log v := by
  -- A transcript is taken apart question by question, as the trial asks them.
  constructor
  · intro h
    obtain ⟨loaded, rest, rfl, hloaded⟩ := after_ask_done_iff.1 h
    cases loaded with
    | error e =>
      obtain ⟨rfl, hv⟩ := after_done_iff.1 hloaded
      cases hv
      exact .unread e
    | ok stored =>
      obtain ⟨l, l', applied, rfl, happlies, hsubmit⟩ := after_bind_done_iff.1 hloaded
      match applied with
      | .error e =>
        obtain ⟨rfl, hv⟩ := after_done_iff.1 hsubmit
        cases hv
        simpa using Tried.failed happlies
      | .ok (none, reply) =>
        obtain ⟨rfl, hv⟩ := after_done_iff.1 hsubmit
        cases hv
        simpa using Tried.rested happlies
      | .ok (some next, reply) =>
        obtain ⟨saved, rest, rfl, hsaved⟩ := after_ask_done_iff.1 hsubmit
        match saved with
        | .ok () =>
          obtain ⟨rfl, hv⟩ := after_done_iff.1 hsaved
          cases hv
          exact .saved happlies
        | .error e =>
          by_cases he : e.isConflict
          · simp only [he, if_true] at hsaved
            obtain ⟨⟨⟩, rest, rfl, hnoted⟩ := after_ask_done_iff.1 hsaved
            obtain ⟨rfl, hv⟩ := after_done_iff.1 hnoted
            cases hv
            exact .overtaken happlies he
          · simp only [he] at hsaved
            obtain ⟨rfl, hv⟩ := after_done_iff.1 hsaved
            cases hv
            exact .refused happlies (by simpa using he)
  · intro h
    cases h with
    | unread e => exact .cons _ (.nil _)
    | failed happlies => exact .cons _ (After.bind happlies (submit session _))
    | rested happlies => exact .cons _ (After.bind happlies (submit session _))
    | saved happlies =>
      exact .cons _ ((After.bind happlies (submit session _)).append (.cons _ (.nil _)))
    | refused happlies he =>
      refine .cons _ ((After.bind happlies (submit session _)).append (.cons _ ?_))
      simpa only [he] using .nil _
    | overtaken happlies he =>
      refine .cons _ ((After.bind happlies (submit session _)).append (.cons _ ?_))
      simpa only [he] using .cons _ (.nil _)

/-- The transcripts of a turn by the way it ends: after one trial, after looking at what is running
now, or after two trials. -/
inductive Ended (c : Conversation H) (session : SessionRef) (r : TurnRequest) :
    Transcript H → Except Error Reply → Prop
  | once {log : Transcript H} {result : Except Error Reply}
      (hfirst : c.Tried session r log (.closed result)) : Ended c session r log result
  | unchecked {log : Transcript H} {running : Option String} {e : Error}
      (hfirst : c.Tried session r log (.conflict running e)) (e' : Error) :
      Ended c session r (log ++ [⟨.load session.key, .error e'⟩]) (.error e')
  | dropped {log : Transcript H} {running : Option String} {e : Error}
      {current : Option Context} (hfirst : c.Tried session r log (.conflict running e))
      (hmoved : current.bind (·.workflowId) ≠ running) :
      Ended c session r (log ++ [⟨.load session.key, .ok current⟩]) (.error e)
  | twice {log log' : Transcript H} {running : Option String} {e : Error}
      {current : Option Context} {result : Except Error Reply}
      (hfirst : c.Tried session r log (.conflict running e))
      (hsame : current.bind (·.workflowId) = running)
      (hsecond : c.Tried session r log' (.closed result)) :
      Ended c session r (log ++ ⟨.load session.key, .ok current⟩ :: log') result
  | gaveUp {log log' : Transcript H} {running running' : Option String} {e e' : Error}
      {current : Option Context} (hfirst : c.Tried session r log (.conflict running e))
      (hsame : current.bind (·.workflowId) = running)
      (hsecond : c.Tried session r log' (.conflict running' e')) :
      Ended c session r (log ++ ⟨.load session.key, .ok current⟩ :: log') (.error e')

theorem ended_iff {log : Transcript H} {result : Except Error Reply} :
    After (c.turn session r) log (.done result) ↔ Ended c session r log result := by
  rw [turn_eq, after_bind_done_iff]
  constructor
  · rintro ⟨l₁, l₂, v, rfl, hfirst, hproceed⟩
    rw [tried_iff] at hfirst
    cases v with
    | closed result' =>
      obtain ⟨rfl, hresult⟩ := after_done_iff.1 hproceed
      cases hresult
      simpa using Ended.once hfirst
    | conflict running e =>
      obtain ⟨loaded, rest, rfl, hloaded⟩ := after_ask_done_iff.1 hproceed
      cases loaded with
      | error e' =>
        obtain ⟨rfl, hresult⟩ := after_done_iff.1 hloaded
        cases hresult
        exact .unchecked hfirst e'
      | ok current =>
        by_cases hsame : current.bind (·.workflowId) = running
        · simp only [hsame, if_true, retrial] at hloaded
          obtain ⟨l₂, l₃, v, rfl, hsecond, hlast⟩ := after_bind_done_iff.1 hloaded
          rw [tried_iff] at hsecond
          cases v with
          | closed result' =>
            obtain ⟨rfl, hresult⟩ := after_done_iff.1 hlast
            cases hresult
            simpa using Ended.twice hfirst hsame hsecond
          | conflict running' e' =>
            obtain ⟨rfl, hresult⟩ := after_done_iff.1 hlast
            cases hresult
            simpa using Ended.gaveUp hfirst hsame hsecond
        · simp only [hsame, if_false] at hloaded
          obtain ⟨rfl, hresult⟩ := after_done_iff.1 hloaded
          cases hresult
          exact .dropped hfirst hsame
  · intro h
    cases h with
    | once hfirst => exact ⟨log, [], _, by simp, tried_iff.2 hfirst, .nil _⟩
    | unchecked hfirst e' => exact ⟨_, _, _, rfl, tried_iff.2 hfirst, .cons _ (.nil _)⟩
    | dropped hfirst hmoved =>
      refine ⟨_, _, _, rfl, tried_iff.2 hfirst, .cons _ ?_⟩
      simpa only [hmoved] using .nil _
    | twice hfirst hsame hsecond =>
      refine ⟨_, _, _, rfl, tried_iff.2 hfirst, .cons _ ?_⟩
      simp only [hsame, if_true]
      exact After.bind (tried_iff.2 hsecond) _
    | gaveUp hfirst hsame hsecond =>
      refine ⟨_, _, _, rfl, tried_iff.2 hfirst, .cons _ ?_⟩
      simp only [hsame, if_true]
      exact After.bind (tried_iff.2 hsecond) _

/-- A transcript of a first trial that met a conflict, and of a look at what is running now that
found the same workflow. -/
def Rechecks (c : Conversation H) (session : SessionRef) (r : TurnRequest) (log : Transcript H)
    (first current : Option Context) : Prop :=
  ∃ l e, c.Tried session r (⟨.load session.key, .ok first⟩ :: l)
      (.conflict (first.getD {}).workflowId e) ∧
    current.bind (·.workflowId) = (first.getD {}).workflowId ∧
    log = (⟨.load session.key, .ok first⟩ :: l) ++ [⟨.load session.key, .ok current⟩]

/-- What comes before the last trial of a turn: nothing, or a first trial and a look. -/
def Opening (c : Conversation H) (session : SessionRef) (r : TurnRequest) (log : Transcript H) :
    Prop :=
  log = [] ∨ ∃ first current, c.Rechecks session r log first current

/-- A transcript that ends with a request applied to what was loaded, with nothing to save. -/
def Rests (c : Conversation H) (session : SessionRef) (r : TurnRequest) (log : Transcript H)
    (reply : Reply) : Prop :=
  ∃ pre stored l, log = pre ++ ⟨.load session.key, .ok stored⟩ :: l ∧ c.Opening session r pre ∧
    c.Applies session r stored l (.ok (none, reply))

/-- A transcript that ends with a request applied to what was loaded and the save of the outcome. -/
def Commits (c : Conversation H) (session : SessionRef) (r : TurnRequest) (log : Transcript H)
    (reply : Reply) : Prop :=
  ∃ pre stored l next,
    log = (pre ++ ⟨.load session.key, .ok stored⟩ :: l) ++ [saving session stored next (.ok ())] ∧
    c.Opening session r pre ∧ c.Applies session r stored l (.ok (some next, reply))

theorem Tried.writeless {log : Transcript H} {v : Verdict} (h : c.Tried session r log v)
    (hv : ∀ reply, v ≠ .closed (.ok reply)) : log.Writeless := by
  cases h with
  | unread e => simp [Entry.wrote]
  | failed happlies => simp [Entry.wrote, happlies.writeless]
  | rested happlies => exact (hv _ rfl).elim
  | saved happlies => exact (hv _ rfl).elim
  | refused happlies he => simp [Entry.wrote, happlies.writeless]
  | overtaken happlies he => simp [Entry.wrote, happlies.writeless]

theorem Tried.conflict_writeless {log : Transcript H} {running : Option String} {e : Error}
    (h : c.Tried session r log (.conflict running e)) : log.Writeless :=
  h.writeless fun _ hv => by cases hv

/-- A trial that meets a conflict has loaded the workflow it goes by. -/
theorem Tried.first {log : Transcript H} {running : Option String} {e : Error}
    (h : c.Tried session r log (.conflict running e)) :
    ∃ first l, log = ⟨.load session.key, .ok first⟩ :: l ∧
      running = (first.getD {}).workflowId := by
  cases h with
  | overtaken happlies he => exact ⟨_, _, rfl, rfl⟩

/-- A trial that replies is the end of a turn that rests or commits. -/
theorem Tried.reply {pre log : Transcript H} {reply : Reply} (hpre : c.Opening session r pre)
    (h : c.Tried session r log (.closed (.ok reply))) :
    c.Rests session r (pre ++ log) reply ∨ c.Commits session r (pre ++ log) reply := by
  cases h with
  | rested happlies => exact .inl ⟨pre, _, _, rfl, hpre, happlies⟩
  | saved happlies => exact .inr ⟨pre, _, _, _, by simp, hpre, happlies⟩

theorem Opening.writeless {log : Transcript H} (h : c.Opening session r log) : log.Writeless := by
  rcases h with rfl | ⟨first, current, l, e, hfirst, -, rfl⟩
  · exact Transcript.writeless_nil
  · have hl := hfirst.conflict_writeless
    exact Transcript.writeless_append_iff.2 ⟨hl, by simp [Entry.wrote]⟩

theorem Rests.writeless {log : Transcript H} {reply : Reply} (h : c.Rests session r log reply) :
    log.Writeless := by
  obtain ⟨pre, stored, l, rfl, hpre, happlies⟩ := h
  simp [hpre.writeless, happlies.writeless, Entry.wrote]

theorem Ended.reply {log : Transcript H} {reply : Reply}
    (h : c.Ended session r log (.ok reply)) :
    c.Rests session r log reply ∨ c.Commits session r log reply := by
  cases h with
  | once hfirst => exact hfirst.reply (.inl rfl)
  | twice hfirst hsame hsecond =>
    obtain ⟨first, l, rfl, rfl⟩ := hfirst.first
    have hreply := hsecond.reply (.inr ⟨first, _, l, _, hfirst, hsame, rfl⟩)
    simpa using hreply

theorem Ended.writeless {log : Transcript H} {e : Error} (h : c.Ended session r log (.error e)) :
    log.Writeless := by
  cases h with
  | once hfirst => exact hfirst.writeless fun _ hv => by cases hv
  | unchecked hfirst e' => simp [hfirst.conflict_writeless, Entry.wrote]
  | dropped hfirst hmoved => simp [hfirst.conflict_writeless, Entry.wrote]
  | twice hfirst hsame hsecond =>
    have hlast := hsecond.writeless fun _ hv => by cases hv
    simp [hfirst.conflict_writeless, hlast, Entry.wrote]
  | gaveUp hfirst hsame hsecond =>
    simp [hfirst.conflict_writeless, hsecond.conflict_writeless, Entry.wrote]

/-- Only the last thing a turn asks may be a write. -/
theorem Ended.dropLast_writeless {log : Transcript H} {result : Except Error Reply}
    (h : c.Ended session r log result) : Transcript.Writeless log.dropLast := by
  have hsub : ∀ {log : Transcript H}, log.Writeless → Transcript.Writeless log.dropLast :=
    fun hlog e he => hlog e (List.dropLast_subset _ he)
  cases result with
  | error e => exact hsub h.writeless
  | ok reply =>
    rcases h.reply with hrests | ⟨pre, stored, l, next, rfl, hpre, happlies⟩
    · exact hsub hrests.writeless
    · rw [List.dropLast_concat]
      simp [hpre.writeless, happlies.writeless, Entry.wrote]

/-- A turn under way has written nothing: it could still end, and only its last question may be a
write. -/
theorem turn_unfinished {log : Transcript H} {q : Query H}
    {resume : q.Answer → Exchange H (Except Error Reply)}
    (h : After (c.turn session r) log (.ask q resume)) : log.Writeless := by
  -- Whatever is answered from here on, the turn asks at least once more.
  obtain ⟨more, result, hmore⟩ := exists_done Query.nonempty_answer (.ask q resume)
  have hne : more ≠ [] := by
    rintro rfl
    cases after_nil_iff.1 hmore
  have hended := (ended_iff.1 (h.append hmore)).dropLast_writeless
  rw [List.dropLast_append_of_ne_nil hne] at hended
  exact (Transcript.writeless_append_iff.1 hended).1

theorem turn_commits {log : Transcript H} {p : Exchange H (Except Error Reply)}
    (h : After (c.turn session r) log p) (hwrote : ¬ log.Writeless) :
    ∃ reply, p = .done (.ok reply) ∧ c.Commits session r log reply := by
  cases p with
  | ask q resume => exact (hwrote (turn_unfinished h)).elim
  | done result =>
    have hended := ended_iff.1 h
    cases result with
    | error e => exact (hwrote hended.writeless).elim
    | ok reply =>
      have hcommits := hended.reply.resolve_left fun hrests => hwrote hrests.writeless
      exact ⟨reply, rfl, hcommits⟩

theorem submit_holds {R : Reply → Prop} (stored : Option Context) {applied : Applied}
    (h : Replies R applied) : (submit (H := H) session stored applied).Holds
      (Query.IsAbout session.key) fun v => ∀ reply, v = .closed (.ok reply) → R reply := by
  match applied with
  | .error e =>
    intro reply hv
    cases hv
  | .ok (none, reply) =>
    intro reply' hv
    cases hv
    exact h none reply rfl
  | .ok (some next, reply) =>
    refine ⟨⟨rfl, rfl⟩, fun saved => ?_⟩
    cases saved with
    | ok u =>
      intro reply' hv
      cases hv
      exact h (some next) reply rfl
    | error e =>
      by_cases he : e.isConflict
      · simp only [he, if_true]
        refine ⟨trivial, fun _ reply' hv => ?_⟩
        cases hv
      · simp only [he]
        intro reply' hv
        cases hv

/-- A turn concerns its own session and saves the version after the one it expects; what it shows
comes from applying its request. -/
theorem turn_holds {R : Reply → Prop}
    (hR : ∀ context, (c.apply session context r).Holds Query.IsQuiet (Replies R)) :
    (c.turn session r).Holds (Query.IsAbout session.key)
      fun result => ∀ reply, result = .ok reply → R reply := by
  -- Both trials are the same computation, so one statement about a trial is used twice.
  have htrial : (c.trial session r).Holds (Query.IsAbout session.key)
      fun v => ∀ reply, v = .closed (.ok reply) → R reply := by
    refine ⟨rfl, fun loaded => ?_⟩
    cases loaded with
    | error e =>
      intro reply hv
      cases hv
    | ok stored =>
      have happly := (hR (stored.getD {})).mono (fun q hq => hq.isAbout session.key) fun _ h => h
      exact happly.bind fun applied happlied => submit_holds stored happlied
  rw [turn_eq]
  refine htrial.bind fun v hv => ?_
  cases v with
  | closed result => exact fun reply hreply => hv reply (congrArg Verdict.closed hreply)
  | conflict running e =>
    refine ⟨rfl, fun loaded => ?_⟩
    cases loaded with
    | error e' =>
      intro reply hreply
      cases hreply
    | ok current =>
      by_cases hsame : current.bind (·.workflowId) = running
      · simp only [hsame, if_true, retrial]
        refine htrial.bind fun v hv => ?_
        cases v with
        | closed result => exact fun reply hreply => hv reply (congrArg Verdict.closed hreply)
        | conflict running' e' =>
          intro reply hreply
          cases hreply
      · simp only [hsame, if_false]
        intro reply hreply
        cases hreply

theorem turn_asks (c : Conversation H) (session : SessionRef) (r : TurnRequest) :
    (c.turn session r).Holds (Query.IsAbout session.key) fun _ => True := by
  have happly : ∀ context, (c.apply session context r).Holds Query.IsQuiet
      (Replies fun _ => True) :=
    fun context => (c.apply_quiet session context r).mono (fun _ hq => hq) fun _ _ _ _ _ => trivial
  exact (turn_holds happly).mono (fun _ hq => hq) fun _ _ => trivial

theorem cancel_asks (key : String) :
    (cancel (H := H) key).Holds (Query.IsAbout key) fun _ => True :=
  ⟨trivial, fun _ => ⟨rfl, fun _ => trivial⟩⟩

/-- Starting a workflow is a turn whose reply shows a step. -/
theorem startWorkflow_eq (c : Conversation H) (session : SessionRef) (id : String) :
    ((c.startWorkflow session id).bind fun result => .done (result.map .step)) =
      c.turn session (.start id) := by
  change Interaction.bind (Interaction.bind _ _) _ = _
  rw [Interaction.bind_assoc]
  refine Eq.trans ?_ (Interaction.done_bind _)
  have hturn : (c.turn session (.start id)).Holds _ _ :=
    turn_holds fun context => c.start_quiet session id
  refine hturn.bind_congr fun a ha => ?_
  cases a with
  | error e => rfl
  | ok reply =>
    obtain ⟨result, rfl⟩ := ha reply rfl
    rfl

/-- Going back is a turn whose reply shows where that leads. -/
theorem goBack_eq (c : Conversation H) (session : SessionRef) :
    ((c.goBack session).bind fun result => .done (result.map .back)) =
      c.turn session .back := by
  change Interaction.bind (Interaction.bind _ _) _ = _
  rw [Interaction.bind_assoc]
  refine Eq.trans ?_ (Interaction.done_bind _)
  have hturn : (c.turn session .back).Holds _ _ := turn_holds fun context => c.back_quiet context
  refine hturn.bind_congr fun a ha => ?_
  cases a with
  | error e => rfl
  | ok reply =>
    obtain ⟨navigation, rfl⟩ := ha reply rfl
    rfl

end Conversation

end Dialogue
