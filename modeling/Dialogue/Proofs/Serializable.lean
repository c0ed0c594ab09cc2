import Dialogue.Pattern.Reader
import Dialogue.Proofs.Traffic
import Mathlib.Data.List.Forall2
import Mathlib.Data.List.Induction

namespace Dialogue

open Interaction Conversation

namespace SessionStore

variable {H : Type}

/-- How a step of a call about `key` changes what is stored: no other session is touched, a save
stores version 1 or the version after the one stored, a clear counts as a write if there is anything
to clear, and nothing else changes anything. -/
structure Moves (key : String) (entry : Entry (Query.Answer (H := H))) (s s' : SessionStore) :
    Prop where
  sameBut : SameBut key s s'
  unchanged : entry.wrote = false → s' = s
  saved : ∀ next expected, entry = ⟨.save key next expected, .ok ()⟩ →
    s'.version? key = some ((s.version? key).getD 0 + 1)
  cleared : entry = ⟨.clear key, .ok ()⟩ → s'.version? key = (s.version? key).map (· + 1)

theorem Serves.moves {s s' : SessionStore} {q : Query H} {x : q.Answer} {key : String}
    (hs : s.Keyed) (hq : q.IsAbout key) (h : s.Serves q x s') : Moves key ⟨q, x⟩ s s' where
  sameBut := h.sameBut hs hq
  unchanged := h.unchanged
  saved := by
    intro next expected he
    cases he
    obtain ⟨hfound, hsaved, -, -⟩ := save_ok hs h.of_saved
    rw [hsaved, hfound, hq.2]
  cleared := by
    intro he
    cases he
    rw [h.of_cleared, version?_clear]

end SessionStore

/-- A call that is performed alone: what it asked and was told, and its reply. -/
structure Performance (H : Type) where
  op : Op H
  log : Transcript H
  result : Except Error Reply

/-- Calls performed one after the other. -/
inductive OneByOne {H : Type} : SessionStore → List (Performance H) → SessionStore → Prop
  | nil (s : SessionStore) : OneByOne s [] s
  | cons {s s' s'' : SessionStore} {p : Performance H} {ps : List (Performance H)}
      (hcourse : After p.op.course p.log (.done p.result)) (hserved : s.ServesAll p.log s')
      (hrest : OneByOne s' ps s'') : OneByOne s (p :: ps) s''

theorem OneByOne.snoc {H : Type} {s s' s'' : SessionStore} {p : Performance H}
    {ps : List (Performance H)} (h : OneByOne s ps s')
    (hcourse : After p.op.course p.log (.done p.result)) (hserved : s'.ServesAll p.log s'') :
    OneByOne s (ps ++ [p]) s'' := by
  induction h with
  | nil s => exact .cons hcourse hserved (.nil _)
  | cons hc hs hrest ih => exact .cons hc hs (ih hserved)

/-- Of calls performed one after the other, those of a session leave it just as all of them do. -/
theorem OneByOne.ofSession {H : Type} {s s' t : SessionStore} {ps : List (Performance H)}
    (key : String) (hs : s.Keyed) (ht : t.Keyed) (h : OneByOne s ps s')
    (hsame : SessionStore.SameAt key s t) :
    ∃ t', OneByOne t (ps.filter (·.op.key = key)) t' ∧ SessionStore.SameAt key s' t' := by
  induction h generalizing t with
  | nil s => exact ⟨t, .nil t, hsame⟩
  | @cons s s₁ s₂ p ps hcourse hserved hrest ih =>
    have hlog := (p.op.course_asks.after hcourse).2
    by_cases hkey : p.op.key = key
    · rw [hkey] at hlog
      obtain ⟨t₁, ht₁, hsame₁⟩ := hserved.sameAt hs ht hlog hsame
      obtain ⟨t₂, ht₂, hsame₂⟩ := ih (hserved.keyed hs) (ht₁.keyed ht) hsame₁
      exact ⟨t₂, by simpa [hkey] using OneByOne.cons hcourse ht₁ ht₂, hsame₂⟩
    · -- A call about another session has not touched this one.
      have hsame₁ := (hserved.sameBut hs hlog key (Ne.symm hkey)).symm.trans hsame
      obtain ⟨t₂, ht₂, hsame₂⟩ := ih (hserved.keyed hs) ht hsame₁
      exact ⟨t₂, by simpa [hkey] using ht₂, hsame₂⟩

namespace World

variable {H ι : Type} [DecidableEq ι] {ops : ι → Op H} {s : SessionStore}
  {es : List (Event ι H)} {w : World ι H}

theorem Run.keyed (hs : s.Keyed) (h : Run (before s ops) es w) : w.store.Keyed :=
  h.servesAll.keyed hs

theorem Run.loaded (h : Run (before s ops) es w) {i : ι} {key : String} {stored : Option Context}
    {pre l : Transcript H} (hlog : transcript i es = pre ++ ⟨.load key, .ok stored⟩ :: l) :
    ∃ es₁ es₂ w₁, es = es₁ ++ es₂ ∧ Run (before s ops) es₁ w₁ ∧ Run w₁ es₂ w ∧
      w₁.store.load key = .ok stored ∧ transcript i es₁ = pre ++ [⟨.load key, .ok stored⟩] := by
  obtain ⟨es₁, es₂, rfl, hlog₁, hlog₂⟩ := transcript_eq_append_iff.1 hlog
  obtain ⟨es₃, es₄, rfl, hlog₃, -⟩ := transcript_eq_cons_iff.1 hlog₂
  obtain ⟨w₁, h₁, h₂⟩ := run_append_iff.1 h
  obtain ⟨w₂, h₂, h₃⟩ := run_append_iff.1 h₂
  obtain ⟨w₃, hstep, h₄⟩ := run_cons_iff.1 h₃
  refine ⟨es₁ ++ es₃ ++ [⟨i, ⟨.load key, .ok stored⟩⟩], es₄, w₃, by simp, ?_, h₄, ?_, ?_⟩
  · exact (run_append_iff.2 ⟨w₁, h₁, h₂⟩).snoc hstep
  · cases hstep with
    | mk hcall hstore =>
      obtain ⟨rfl, hload⟩ := hstore.of_load_ok
      exact hload
  · simp [transcript_cons, hlog₁, hlog₃]

/-- A session at the version at which a call last loaded it is as the call found it. -/
theorem Run.unmoved (hs : s.Keyed) (h : Run (before s ops) es w) {i : ι} {key : String}
    {stored : Option Context} {pre l : Transcript H}
    (hlog : transcript i es = pre ++ ⟨.load key, .ok stored⟩ :: l)
    (hversion : w.store.version? key = stored.map (·.version)) : w.store.load key = .ok stored := by
  obtain ⟨es₁, es₂, w₁, rfl, h₁, h₂, hload, -⟩ := h.loaded hlog
  have hproper : SessionStore.Proper (es₂.map (·.entry)) := h.proper fun e he => by simp [he]
  rw [← hload]
  -- A version does not come back, so the session was not written since.
  refine h₂.servesAll.load_eq (h₁.keyed hs) hproper ?_
  rw [hversion]
  exact (SessionStore.version?_of_load hload).symm

/-- A turn whose outcome was saved: before its only write the session was just as the turn had last
loaded it, and the turn wrote what its request makes of that. -/
def SavedOnce (ops : ι → Op H) (s : SessionStore) (es : List (Event ι H)) (i : ι)
    (c : Conversation H) (session : SessionRef) (r : TurnRequest) (reply : Reply) : Prop :=
  ∃ es₁ es₂ w₁ pre stored l next,
    es = es₁ ++ ⟨i, saving session stored next (.ok ())⟩ :: es₂ ∧
      Run (before s ops) es₁ w₁ ∧ w₁.store.load session.key = .ok stored ∧
      transcript i es₁ = pre ++ ⟨.load session.key, .ok stored⟩ :: l ∧
      c.Applies session r stored l (.ok (some next, reply)) ∧
      Transcript.Writeless (transcript i es₁) ∧ Transcript.Writeless (transcript i es₂)

/-- A turn that saves finds its session just as it last loaded it. -/
theorem unmoved_at_write (hs : s.Keyed) (h : Run (before s ops) es w) {w' : World ι H} {i : ι}
    {key : String} {stored : Option Context} {next : Context} {pre l : Transcript H}
    (hlog : transcript i es = pre ++ ⟨.load key, .ok stored⟩ :: l)
    (hstep : Step w ⟨i, ⟨.save key next (stored.map (·.version)), .ok ()⟩⟩ w') :
    w.store.load key = .ok stored := by
  cases hstep with
  | mk hcall hstore =>
    exact h.unmoved hs hlog (SessionStore.save_ok (h.keyed hs) hstore.of_saved).1

/-- A turn that replied saved once, or it rests and wrote nothing. -/
theorem Run.replied (hs : s.Keyed) (h : Run (before s ops) es w) {i : ι} {c : Conversation H}
    {session : SessionRef} {r : TurnRequest} (hop : ops i = .turn c session r) {reply : Reply}
    (hdone : w.calls i = .done (.ok reply)) :
    SavedOnce ops s es i c session r reply ∨ c.Rests session r (transcript i es) reply := by
  have hafter := h.after_turn hop
  rw [hdone] at hafter
  rcases (ended_iff.1 hafter).reply with hrests | hcommits
  · exact .inr hrests
  · left
    obtain ⟨pre, stored, l, next, hlog, hpre, happlies⟩ := hcommits
    obtain ⟨es₁, es₂, rfl, hlog₁, hlog₂⟩ := transcript_eq_append_iff.1 hlog
    obtain ⟨es₃, es₄, rfl, hlog₃, hlog₄⟩ := transcript_eq_cons_iff.1 hlog₂
    have hlog₁₃ : transcript i (es₁ ++ es₃) = pre ++ ⟨.load session.key, .ok stored⟩ :: l := by
      rw [transcript_append, hlog₁, hlog₃, List.append_nil]
    rw [← List.append_assoc] at h
    obtain ⟨w₁, h₁, h₂⟩ := run_append_iff.1 h
    obtain ⟨w₂, hstep, -⟩ := run_cons_iff.1 h₂
    refine ⟨es₁ ++ es₃, es₄, w₁, pre, stored, l, next, by simp, h₁,
      unmoved_at_write hs h₁ hlog₁₃ hstep, hlog₁₃, happlies, ?_, ?_⟩
    · rw [hlog₁₃]
      simp [hpre.writeless, happlies.writeless, Entry.wrote]
    · simp [hlog₄]

/-- A call that failed or is under way wrote nothing. -/
theorem Run.unreplied (h : Run (before s ops) es w) {i : ι}
    (hdone : ∀ reply, w.calls i ≠ .done (.ok reply)) : Transcript.Writeless (transcript i es) := by
  intro entry hentry
  by_contra hwrote
  obtain ⟨l₁, l₂, hlog⟩ := List.append_of_mem hentry
  have hafter := h.after i
  rw [hlog, List.append_cons] at hafter
  obtain ⟨p, hp, hrest⟩ := after_append_iff.1 hafter
  obtain ⟨reply, rfl⟩ := Op.done_of_write hp (by simpa using hwrote)
  exact hdone reply (after_done_iff.1 hrest).2

theorem Run.moves (hs : s.Keyed) (h : Run (before s ops) es w) {e : Event ι H} {w' : World ι H}
    (hstep : Step w e w') :
    SessionStore.Moves (ops e.caller).key e.entry w.store w'.store := by
  have hasks := (h.snoc hstep).asks e (by simp)
  cases hstep with
  | mk hcall hstore => exact hstore.moves (h.keyed hs) hasks

/-- What a writing call amounts to: its reply, and the end of its transcript as its whole. -/
def Performed (ops : ι → Op H) (es : List (Event ι H)) (w : World ι H) (e : Event ι H)
    (p : Performance H) : Prop :=
  p.op = ops e.caller ∧ w.calls e.caller = .done p.result ∧ p.log <:+ transcript e.caller es

theorem Performed.step {e e' : Event ι H} {p : Performance H} {w' : World ι H}
    (hp : Performed ops es w e p) (hstep : Step w e' w') : Performed ops (es ++ [e']) w' e p := by
  obtain ⟨hop, hdone, hlog⟩ := hp
  cases hstep with
  | @mk i q resume x s' hcall hstore =>
    have hne : i ≠ e.caller := by
      rintro rfl
      rw [hdone] at hcall
      cases hcall
    refine ⟨hop, by simpa [Function.update_of_ne hne.symm] using hdone, ?_⟩
    simpa [transcript, hne] using hlog

/-- A call that writes may as well be performed alone at that moment. -/
theorem performance_of_write (hs : s.Keyed) (h : Run (before s ops) es w) {e : Event ι H}
    {w' : World ι H} (hstep : Step w e w') (he : e.entry.wrote = true) :
    ∃ p : Performance H, Performed ops (es ++ [e]) w' e p ∧
      After p.op.course p.log (.done p.result) ∧ w.store.ServesAll p.log w'.store := by
  have hafter := h.after_snoc hstep
  have hlog : transcript e.caller (es ++ [e]) = transcript e.caller es ++ [e.entry] := by
    simp [transcript]
  rcases Op.closed_of_write hafter he with
    ⟨c, session, r, reply, hop, hdone, hcommits⟩ | ⟨key, hop, hdone, hnote, hentry⟩
  · obtain ⟨pre, stored, l, next, hwhole, -, happlies⟩ := hcommits
    obtain ⟨hes, hentry⟩ := List.append_inj' hwhole rfl
    obtain ⟨i, entry⟩ := e
    obtain rfl : entry = _ := List.singleton_inj.1 hentry
    -- Alone at this moment it loads what its last trial had loaded, so that trial is its whole.
    have hload := unmoved_at_write hs h hes hstep
    refine ⟨⟨ops i, ⟨.load session.key, .ok stored⟩ :: (l ++ [saving session stored next (.ok ())]),
      .ok reply⟩, ⟨rfl, hdone, ?_⟩, ?_, ?_⟩
    · rw [hlog, hes]
      exact ⟨pre, by simp⟩
    · simp only [hop, Op.course_turn]
      exact ended_iff.2 (.once (.saved happlies))
    · have hserves : w.store.Serves (H := H) (.load session.key) (.ok stored) w.store := by
        rw [← hload]
        exact .load _ _
      cases hstep with
      | mk hcall hstore =>
        exact .cons hserves
          ((SessionStore.servesAll_quiet _ happlies.quiet).append (.cons hstore (.nil _)))
  · obtain ⟨i, entry⟩ := e
    obtain rfl : entry = _ := hentry
    refine ⟨⟨ops i, transcript i (es ++ [⟨i, ⟨.clear key, .ok ()⟩⟩]), .ok .cancelled⟩,
      ⟨rfl, hdone, List.suffix_refl _⟩, ?_, ?_⟩
    · rw [hlog, ← hdone]
      exact hafter
    · rw [hlog, hnote]
      cases hstep with
      | mk hcall hstore => exact .cons (.noted _ _) (.cons hstore (.nil _))

/-- The calls that wrote, one after the other in the order of their writes, leave the same store. -/
theorem Run.oneByOne (hs : s.Keyed) (h : Run (before s ops) es w) :
    ∃ ps, List.Forall₂ (Performed ops es w) (es.filter (·.entry.wrote)) ps ∧
      OneByOne s ps w.store := by
  -- By induction on the run from its end: a step that wrote adds its call, another adds nothing.
  induction es using List.reverseRecOn generalizing w with
  | nil =>
    cases h
    exact ⟨[], .nil, .nil s⟩
  | append_singleton es e ih =>
    obtain ⟨w₁, h₁, h₂⟩ := run_append_iff.1 h
    obtain ⟨w₂, hstep, hnil⟩ := run_cons_iff.1 h₂
    cases hnil
    obtain ⟨ps, hps, hone⟩ := ih h₁
    have hps := hps.imp fun e' p hp => hp.step hstep
    cases he : e.entry.wrote with
    | false =>
      rw [← (h₁.moves hs hstep).unchanged he] at hone
      exact ⟨ps, by simpa [he] using hps, hone⟩
    | true =>
      obtain ⟨p, hp, hcourse, hserved⟩ := performance_of_write hs h₁ hstep he
      refine ⟨ps ++ [p], ?_, hone.snoc hcourse hserved⟩
      simp only [List.filter_append, List.filter_cons, he, if_true, List.filter_nil]
      exact List.rel_append hps (.cons hp .nil)

/-- Turns are serializable: a turn that replies has saved once, from what was stored at that very
moment, or it wrote nothing; one that fails or is under way wrote nothing; a step touches no session
but its own, whose version a save or a clear raises by one; and what is stored in the end is what
the calls that wrote leave when they are performed one after the other in the order of their writes,
each session depending on its own calls alone. -/
theorem Run.serializable (hs : s.Keyed) (h : Run (before s ops) es w) :
    (∀ i c session r, ops i = .turn c session r → ∀ reply, w.calls i = .done (.ok reply) →
      SavedOnce ops s es i c session r reply ∨ c.Rests session r (transcript i es) reply) ∧
    (∀ i, (∀ reply, w.calls i ≠ .done (.ok reply)) → Transcript.Writeless (transcript i es)) ∧
    (∀ e w', Step w e w' → SessionStore.Moves (ops e.caller).key e.entry w.store w'.store) ∧
    ∃ ps, List.Forall₂ (Performed ops es w) (es.filter (·.entry.wrote)) ps ∧
      OneByOne s ps w.store ∧
      ∀ key, ∃ s', OneByOne s (ps.filter (·.op.key = key)) s' ∧
        SessionStore.SameAt key w.store s' := by
  refine ⟨fun i c session r hop reply hdone => h.replied hs hop hdone,
    fun i hdone => h.unreplied hdone,
    fun e w' hstep => h.moves hs hstep, ?_⟩
  obtain ⟨ps, hps, hone⟩ := h.oneByOne hs
  exact ⟨ps, hps, hone, fun key => hone.ofSession key hs hs (.refl key s)⟩

def greeting : Workflow where
  id := "greeting"
  startStepId := "hello"
  steps := [{ id := "hello", kind := some .message, pause := true }]

def greeter : Conversation Unit := { engine := { registry := ⟨[greeting]⟩, actions := {} } }

def greeted : Context where
  workflowId := some "greeting"
  currentStepId := some "hello"
  startedAt := some ⟨0, 0⟩
  version := 1

def startAndCancel : Bool → Op Unit
  | true => .turn greeter ⟨"user", none⟩ (.start "greeting")
  | false => .cancel "user"

/-- The cancel begins first, but the start is over before it clears. -/
def startThenClear : List (Event Bool Unit) :=
  [⟨false, ⟨.note (.command .cancel), ()⟩⟩, ⟨true, ⟨.load "user", .ok none⟩⟩,
    ⟨true, ⟨.now, ⟨0, 0⟩⟩⟩, ⟨true, ⟨.note (.turn "greeting" "awaiting_input"), ()⟩⟩,
    ⟨true, ⟨.save "user" greeted none, .ok ()⟩⟩, ⟨false, ⟨.clear "user", .ok ()⟩⟩]

theorem run_startThenClear : ∃ w, Run (before (.memory []) startAndCancel) startThenClear w :=
  ⟨_, .cons (.mk rfl (.noted _ _)) <| .cons (.mk rfl (.load _ _)) <|
    .cons (.mk rfl (.timed _ _)) <| .cons (.mk rfl (.noted _ _)) <| .cons (.mk rfl (.saved rfl)) <|
    .cons (.mk rfl (.cleared _ _)) <| .nil _⟩

theorem serializable_startThenClear :
    ∃ (w : World Bool Unit) (ps : List (Performance Unit)), SessionStore.Keyed (.memory []) ∧
      Run (before (.memory []) startAndCancel) startThenClear w ∧ ps.length = 2 ∧
      OneByOne (.memory []) ps w.store := by
  obtain ⟨w, hrun⟩ := run_startThenClear
  have hkeyed : SessionStore.Keyed (.memory []) := trivial
  obtain ⟨-, -, -, ps, hps, hone, -⟩ := Run.serializable hkeyed hrun
  exact ⟨w, ps, hkeyed, hrun, hps.length_eq.symm, hone⟩

end World

end Dialogue
