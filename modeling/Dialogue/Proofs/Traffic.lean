import Dialogue.Proofs.Session
import Dialogue.Proofs.Turn
import Mathlib.Logic.Function.Basic

namespace Dialogue

open Interaction

variable {H ι : Type}

namespace SessionStore

/-- What a statement answers and what is stored after it. A statement that breaks down changes
nothing and does not pass for a conflict. -/
inductive Serves : SessionStore → (q : Query H) → q.Answer → SessionStore → Prop
  | load (s : SessionStore) (key : String) : Serves s (.load key) (s.load key) s
  | saved {s s' : SessionStore} {key : String} {next : Context} {expected : Option Nat}
      (h : s.save key next expected = .ok s') : Serves s (.save key next expected) (.ok ()) s'
  | refused {s : SessionStore} {key : String} {next : Context} {expected : Option Nat} {e : Error}
      (h : s.save key next expected = .error e) :
      Serves s (.save key next expected) (.error e) s
  | cleared (s : SessionStore) (key : String) : Serves s (.clear key) (.ok ()) (s.clear key)
  | loadBroke (s : SessionStore) (key : String) {e : Error} (he : e.isConflict = false) :
      Serves s (.load key) (.error e) s
  | saveBroke (s : SessionStore) (key : String) (next : Context) (expected : Option Nat)
      {e : Error} (he : e.isConflict = false) : Serves s (.save key next expected) (.error e) s
  | clearBroke (s : SessionStore) (key : String) {e : Error} (he : e.isConflict = false) :
      Serves s (.clear key) (.error e) s
  | called (s : SessionStore) (call : Call H) (x : CallResult) : Serves s (.call call) x s
  | timed (s : SessionStore) (now : Instant) : Serves s .now now s
  | noted (s : SessionStore) (n : Note) : Serves s (.note n) () s

/-- What is stored after some questions one after the other. -/
inductive ServesAll : SessionStore → Transcript H → SessionStore → Prop
  | nil (s : SessionStore) : ServesAll s [] s
  | cons {s s' s'' : SessionStore} {q : Query H} {x : q.Answer} {log : Transcript H}
      (h : s.Serves q x s') (hrest : ServesAll s' log s'') : ServesAll s (⟨q, x⟩ :: log) s''

/-- How often a session was written, as its version tells. -/
def age (s : SessionStore) (key : String) : Nat := (s.version? key).elim 0 (· + 1)

theorem age_inj {s s' : SessionStore} {key : String} :
    s.age key = s'.age key ↔ s.version? key = s'.version? key := by
  simp only [age]
  cases s.version? key <;> cases s'.version? key <;> simp

theorem Serves.of_load {s s' : SessionStore} {key : String} {x : Except Error (Option Context)}
    (h : Serves (H := H) s (.load key) x s') :
    s' = s ∧ (x = s.load key ∨ ∃ e, e.isConflict = false ∧ x = .error e) := by
  cases h with
  | load => exact ⟨rfl, .inl rfl⟩
  | loadBroke => exact ⟨rfl, .inr ⟨_, by assumption, rfl⟩⟩

theorem Serves.of_load_ok {s s' : SessionStore} {key : String} {stored : Option Context}
    (h : Serves (H := H) s (.load key) (.ok stored) s') : s' = s ∧ s.load key = .ok stored := by
  obtain ⟨hs, hload | ⟨e, -, he⟩⟩ := h.of_load
  · exact ⟨hs, hload.symm⟩
  · cases he

theorem Serves.of_saved {s s' : SessionStore} {key : String} {next : Context}
    {expected : Option Nat} (h : Serves (H := H) s (.save key next expected) (.ok ()) s') :
    s.save key next expected = .ok s' := by
  cases h with
  | saved h => exact h

theorem Serves.of_cleared {s s' : SessionStore} {key : String}
    (h : Serves (H := H) s (.clear key) (.ok ()) s') : s' = s.clear key := by
  cases h
  rfl

theorem Serves.unchanged {s s' : SessionStore} {q : Query H} {x : q.Answer}
    (h : s.Serves q x s') (hx : Entry.wrote ⟨q, x⟩ = false) : s' = s := by
  cases h with
  | saved h => cases hx
  | cleared => cases hx
  | _ => rfl

theorem Serves.keyed {s s' : SessionStore} {q : Query H} {x : q.Answer} (hs : s.Keyed)
    (h : s.Serves q x s') : s'.Keyed := by
  cases h with
  | saved h => exact (save_ok hs h).2.2.1
  | cleared => exact keyed_clear hs _
  | _ => exact hs

theorem Serves.sameBut {s s' : SessionStore} {q : Query H} {x : q.Answer} {key : String}
    (hs : s.Keyed) (hq : q.IsAbout key) (h : s.Serves q x s') : SameBut key s s' := by
  cases h with
  | saved h =>
    obtain ⟨rfl, -⟩ := hq
    exact (save_ok hs h).2.2.2
  | cleared =>
    cases hq
    exact clear_sameBut _ _
  | _ => exact fun k _ => .refl k _

theorem age_clear (s : SessionStore) (key : String) (h : s.version? key ≠ none) :
    (s.clear key).age key = s.age key + 1 := by
  simp only [age, version?_clear]
  cases hv : s.version? key with
  | none => exact (h hv).elim
  | some v => simp

/-- A session without a row is as good as untouched by a clear. -/
theorem load_clear_of_none {s : SessionStore} {key : String} (h : s.version? key = none) :
    (s.clear key).load key = s.load key := by
  rw [load_clear, h]
  cases s with
  | memory m =>
    have hnone : m.lookup key = none := by simpa [version?] using h
    simp [load, SessionMap.load, hnone]
  | table t =>
    have hnone : t.row? key = none := by simpa [version?] using h
    simp [load, SessionTable.load, hnone]

/-- A statement leaves a session as it is or makes it older. -/
theorem Serves.age {s s' : SessionStore} {q : Query H} {x : q.Answer} {key : String}
    (hs : s.Keyed) (hq : q.IsAbout key) (h : s.Serves q x s') (k : String) :
    s.age k < s'.age k ∨ (s'.version? k = s.version? k ∧ s'.load k = s.load k) := by
  by_cases hk : k = key
  · subst hk
    cases h with
    | saved h =>
      -- A save expects the version that is stored, and stores the one after it.
      obtain ⟨rfl, hversion⟩ := hq
      obtain ⟨hfound, hsaved, -, -⟩ := save_ok hs h
      left
      simp only [SessionStore.age, hfound, hsaved, hversion]
      cases ‹Option Nat› <;> simp
    | cleared =>
      cases hq
      by_cases hnone : s.version? k = none
      · right
        exact ⟨by simp [version?_clear, hnone], load_clear_of_none hnone⟩
      · left
        rw [age_clear s k hnone]
        exact Nat.lt_succ_self _
    | _ => exact .inr ⟨rfl, rfl⟩
  · have hsame := h.sameBut hs hq k hk
    exact .inr ⟨hsame.version?_eq, hsame.load_eq⟩

def Proper (log : Transcript H) : Prop := ∀ e ∈ log, ∃ key, e.question.IsAbout key

theorem servesAll_cons_iff {s s'' : SessionStore} {q : Query H} {x : q.Answer}
    {log : Transcript H} :
    s.ServesAll (⟨q, x⟩ :: log) s'' ↔ ∃ s', s.Serves q x s' ∧ s'.ServesAll log s'' := by
  constructor
  · intro h
    cases h with
    | cons h hrest => exact ⟨_, h, hrest⟩
  · rintro ⟨s', h, hrest⟩
    exact .cons h hrest

theorem ServesAll.keyed {s s' : SessionStore} {log : Transcript H} (hs : s.Keyed)
    (h : s.ServesAll log s') : s'.Keyed := by
  induction h with
  | nil s => exact hs
  | cons h hrest ih => exact ih (h.keyed hs)

/-- Statements leave a session as it is or make it older. -/
theorem ServesAll.age {s s' : SessionStore} {log : Transcript H} (hs : s.Keyed)
    (hlog : Proper log) (h : s.ServesAll log s') (k : String) :
    s.age k < s'.age k ∨ (s'.version? k = s.version? k ∧ s'.load k = s.load k) := by
  induction h with
  | nil s => exact .inr ⟨rfl, rfl⟩
  | cons h hrest ih =>
    obtain ⟨⟨key, hq⟩, hproper⟩ := List.forall_mem_cons.1 hlog
    have hrest := ih (h.keyed hs) hproper
    rcases h.age hs hq k with hlt | ⟨hversion, hload⟩
    · rcases hrest with hlt' | ⟨hversion', -⟩
      · exact .inl (Nat.lt_trans hlt hlt')
      · exact .inl (age_inj.2 hversion' ▸ hlt)
    · rw [← hversion, ← hload, age_inj.2 hversion.symm]
      exact hrest

/-- A version comes once: as long as it is the same, so is the session. -/
theorem ServesAll.load_eq {s s' : SessionStore} {log : Transcript H} {key : String}
    (hs : s.Keyed) (hlog : Proper log) (h : s.ServesAll log s')
    (hversion : s'.version? key = s.version? key) : s'.load key = s.load key := by
  rcases h.age hs hlog key with hlt | ⟨-, hload⟩
  · exact (Nat.ne_of_lt hlt (age_inj.2 hversion.symm)).elim
  · exact hload

theorem ServesAll.append {s s' s'' : SessionStore} {l₁ l₂ : Transcript H}
    (h₁ : s.ServesAll l₁ s') (h₂ : s'.ServesAll l₂ s'') : s.ServesAll (l₁ ++ l₂) s'' := by
  induction h₁ with
  | nil s => exact h₂
  | cons h hrest ih => exact .cons h (ih h₂)

theorem servesAll_append_iff {s s'' : SessionStore} {l₁ l₂ : Transcript H} :
    s.ServesAll (l₁ ++ l₂) s'' ↔ ∃ s', s.ServesAll l₁ s' ∧ s'.ServesAll l₂ s'' := by
  constructor
  · induction l₁ generalizing s with
    | nil => exact fun h => ⟨s, .nil s, h⟩
    | cons e l₁ ih =>
      intro h
      cases h with
      | cons h hrest =>
        obtain ⟨s', h₁, h₂⟩ := ih hrest
        exact ⟨s', .cons h h₁, h₂⟩
  · rintro ⟨s', h₁, h₂⟩
    exact h₁.append h₂

theorem ServesAll.unchanged {s s' : SessionStore} {log : Transcript H} (hlog : log.Writeless)
    (h : s.ServesAll log s') : s' = s := by
  induction h with
  | nil s => rfl
  | cons h hrest ih =>
    obtain ⟨hx, hlog⟩ := List.forall_mem_cons.1 hlog
    rw [ih hlog, h.unchanged hx]

/-- What is asked about a session depends on nothing else that is stored. -/
theorem Serves.sameAt {s s' t : SessionStore} {q : Query H} {x : q.Answer} {key : String}
    (hs : s.Keyed) (ht : t.Keyed) (hq : q.IsAbout key) (h : s.Serves q x s')
    (hsame : SameAt key s t) : ∃ t', t.Serves q x t' ∧ SameAt key s' t' := by
  cases h with
  | load =>
    cases hq
    exact ⟨t, hsame.load_eq ▸ .load t _, hsame⟩
  | saved h =>
    obtain ⟨rfl, -⟩ := hq
    obtain ⟨t', hsave, hsame'⟩ := hsame.save hs ht h
    exact ⟨t', .saved hsave, hsame'⟩
  | @refused key next expected e h =>
    obtain ⟨rfl, -⟩ := hq
    obtain ⟨rfl, hne⟩ := save_error h
    -- The answer names the version found, which is the same in both stores.
    rw [← hsame.version?_eq] at hne ⊢
    refine ⟨t, ?_, hsame⟩
    cases hsave : t.save key next expected with
    | ok t' => exact (hne (save_ok ht hsave).1).elim
    | error e => exact (save_error hsave).1 ▸ .refused hsave
  | cleared =>
    cases hq
    exact ⟨_, .cleared t _, hsame.clear⟩
  | loadBroke => exact ⟨t, .loadBroke t _ (by assumption), hsame⟩
  | saveBroke => exact ⟨t, .saveBroke t _ _ _ (by assumption), hsame⟩
  | clearBroke => exact ⟨t, .clearBroke t _ (by assumption), hsame⟩
  | called => exact ⟨t, .called t _ _, hsame⟩
  | timed => exact ⟨t, .timed t _, hsame⟩
  | noted => exact ⟨t, .noted t _, hsame⟩

theorem ServesAll.sameAt {s s' t : SessionStore} {log : Transcript H} {key : String}
    (hs : s.Keyed) (ht : t.Keyed) (hlog : ∀ e ∈ log, e.question.IsAbout key)
    (h : s.ServesAll log s') (hsame : SameAt key s t) :
    ∃ t', t.ServesAll log t' ∧ SameAt key s' t' := by
  induction h generalizing t with
  | nil s => exact ⟨t, .nil t, hsame⟩
  | cons h hrest ih =>
    obtain ⟨hq, hlog⟩ := List.forall_mem_cons.1 hlog
    obtain ⟨t₁, ht₁, hsame₁⟩ := h.sameAt hs ht hq hsame
    obtain ⟨t₂, ht₂, hsame₂⟩ := ih (h.keyed hs) (ht₁.keyed ht) hlog hsame₁
    exact ⟨t₂, .cons ht₁ ht₂, hsame₂⟩

theorem ServesAll.sameBut {s s' : SessionStore} {log : Transcript H} {key : String}
    (hs : s.Keyed) (hlog : ∀ e ∈ log, e.question.IsAbout key) (h : s.ServesAll log s') :
    SameBut key s s' := by
  induction h with
  | nil s => exact fun k _ => .refl k s
  | cons h hrest ih =>
    obtain ⟨hq, hlog⟩ := List.forall_mem_cons.1 hlog
    exact fun k hk => (h.sameBut hs hq k hk).trans (ih (h.keyed hs) hlog k hk)

/-- Questions that the store has no part in may have any answers. -/
theorem servesAll_quiet (s : SessionStore) {log : Transcript H}
    (h : ∀ e ∈ log, e.question.IsQuiet) : s.ServesAll log s := by
  induction log with
  | nil => exact .nil s
  | cons e log ih =>
    obtain ⟨hquiet, hrest⟩ := List.forall_mem_cons.1 h
    obtain ⟨q, x⟩ := e
    refine .cons ?_ (ih hrest)
    cases q with
    | call call => exact .called s call x
    | now => exact .timed s x
    | note n => exact .noted s n
    | load _ | save _ _ _ | clear _ => exact hquiet.elim

end SessionStore

/-- A call: a turn of a conversation, or a cancel of a session. -/
inductive Op (H : Type) where
  | turn (c : Conversation H) (session : SessionRef) (r : TurnRequest)
  | cancel (key : String)

namespace Op

def key : Op H → String
  | .turn _ session _ => session.key
  | .cancel key => key

def course : Op H → Exchange H (Except Error Reply)
  | .turn c session (.start id) =>
    (c.startWorkflow session id).bind fun result => .done (result.map .step)
  | .turn c session (.input text) => c.handleInput session text
  | .turn c session .back => (c.goBack session).bind fun result => .done (result.map .back)
  | .cancel key =>
    (Conversation.cancel key).bind fun result => .done (result.map fun _ => .cancelled)

@[simp]
theorem course_turn (c : Conversation H) (session : SessionRef) (r : TurnRequest) :
    (Op.turn c session r).course = c.turn session r := by
  cases r with
  | start id => exact c.startWorkflow_eq session id
  | input text => rfl
  | back => exact c.goBack_eq session

theorem course_asks (op : Op H) : op.course.Holds (Query.IsAbout op.key) fun _ => True := by
  cases op with
  | turn c session r =>
    rw [course_turn]
    exact c.turn_asks session r
  | cancel key => exact (Conversation.cancel_asks key).bind fun _ _ => trivial

/-- A call that wrote is over: it is a turn that commits or a cancel that clears. -/
theorem closed_of_write {op : Op H} {log : Transcript H} {e : Entry (Query.Answer (H := H))}
    {p : Exchange H (Except Error Reply)} (h : After op.course (log ++ [e]) p)
    (he : e.wrote = true) :
    (∃ c session r reply, op = .turn c session r ∧ p = .done (.ok reply) ∧
        c.Commits session r (log ++ [e]) reply) ∨
      ∃ key, op = .cancel key ∧ p = .done (.ok .cancelled) ∧
        log = [⟨.note (.command .cancel), ()⟩] ∧ e = ⟨.clear key, .ok ()⟩ := by
  have hwrote : ¬ Transcript.Writeless (log ++ [e]) := by simp [he]
  cases op with
  | turn c session r =>
    rw [course_turn] at h
    obtain ⟨reply, rfl, hcommits⟩ := Conversation.turn_commits h hwrote
    exact .inl ⟨c, session, r, reply, rfl, rfl, hcommits⟩
  | cancel key =>
    right
    refine ⟨key, rfl, ?_⟩
    -- A cancel asks two questions, and only the second one writes.
    obtain ⟨hnil, -⟩ | ⟨⟨⟩, rest, hlog, hrest⟩ := after_ask_iff.1 h
    · simp at hnil
    · obtain ⟨rfl, -⟩ | ⟨cleared, rest, rfl, hcleared⟩ := after_ask_iff.1 hrest
      · cases log with
        | nil =>
          cases hlog
          cases he
        | cons e' log => simp at hlog
      · obtain ⟨rfl, rfl⟩ := after_done_iff.1 hcleared
        have hsplit : log ++ [e] =
            [⟨.note (.command .cancel), ()⟩] ++ [⟨.clear key, cleared⟩] := hlog
        obtain ⟨rfl, hlast⟩ := List.append_inj' hsplit rfl
        cases hlast
        cases cleared with
        | error err => cases he
        | ok u => exact ⟨rfl, rfl, rfl⟩

theorem done_of_write {op : Op H} {log : Transcript H} {e : Entry (Query.Answer (H := H))}
    {p : Exchange H (Except Error Reply)} (h : After op.course (log ++ [e]) p)
    (he : e.wrote = true) : ∃ reply, p = .done (.ok reply) := by
  rcases closed_of_write h he with ⟨_, _, _, reply, -, hdone, -⟩ | ⟨_, -, hdone, -⟩
  · exact ⟨reply, hdone⟩
  · exact ⟨_, hdone⟩

end Op

/-- A step of a call: its question with the answer. -/
structure Event (ι H : Type) where
  caller : ι
  entry : Entry (Query.Answer (H := H))

structure World (ι H : Type) where
  store : SessionStore
  calls : ι → Exchange H (Except Error Reply)

namespace World

variable [DecidableEq ι]

/-- A call asks its next question. -/
inductive Step : World ι H → Event ι H → World ι H → Prop
  | mk {w : World ι H} {i : ι} {q : Query H} {resume : q.Answer → Exchange H (Except Error Reply)}
      {x : q.Answer} {s : SessionStore} (hcall : w.calls i = .ask q resume)
      (hstore : w.store.Serves q x s) :
      Step w ⟨i, ⟨q, x⟩⟩ ⟨s, Function.update w.calls i (resume x)⟩

/-- Calls proceed in any order. -/
inductive Run : World ι H → List (Event ι H) → World ι H → Prop
  | nil (w : World ι H) : Run w [] w
  | cons {w w' w'' : World ι H} {e : Event ι H} {es : List (Event ι H)} (h : Step w e w')
      (hrest : Run w' es w'') : Run w (e :: es) w''

def before (s : SessionStore) (ops : ι → Op H) : World ι H := ⟨s, fun i => (ops i).course⟩

/-- What one call asked and was told. -/
def transcript (i : ι) (es : List (Event ι H)) : Transcript H :=
  (es.filter (·.caller = i)).map (·.entry)

@[simp]
theorem transcript_nil (i : ι) : transcript i ([] : List (Event ι H)) = [] := rfl

@[simp]
theorem transcript_append (i : ι) (es₁ es₂ : List (Event ι H)) :
    transcript i (es₁ ++ es₂) = transcript i es₁ ++ transcript i es₂ := by
  simp [transcript]

theorem transcript_cons (i : ι) (e : Event ι H) (es : List (Event ι H)) :
    transcript i (e :: es) = if e.caller = i then e.entry :: transcript i es
      else transcript i es := by
  by_cases h : e.caller = i
  · simp [transcript, h]
  · simp [transcript, h]

theorem run_append_iff {w w'' : World ι H} {es₁ es₂ : List (Event ι H)} :
    Run w (es₁ ++ es₂) w'' ↔ ∃ w', Run w es₁ w' ∧ Run w' es₂ w'' := by
  constructor
  · induction es₁ generalizing w with
    | nil => exact fun h => ⟨w, .nil w, h⟩
    | cons e es₁ ih =>
      intro h
      cases h with
      | cons h hrest =>
        obtain ⟨w', h₁, h₂⟩ := ih hrest
        exact ⟨w', .cons h h₁, h₂⟩
  · rintro ⟨w', h₁, h₂⟩
    induction h₁ with
    | nil w => exact h₂
    | cons h hrest ih => exact .cons h (ih h₂)

theorem run_cons_iff {w w'' : World ι H} {e : Event ι H} {es : List (Event ι H)} :
    Run w (e :: es) w'' ↔ ∃ w', Step w e w' ∧ Run w' es w'' := by
  constructor
  · intro h
    cases h with
    | cons h hrest => exact ⟨_, h, hrest⟩
  · rintro ⟨w', h, hrest⟩
    exact .cons h hrest

theorem Run.snoc {w w' w'' : World ι H} {e : Event ι H} {es : List (Event ι H)} (h : Run w es w')
    (hstep : Step w' e w'') : Run w (es ++ [e]) w'' :=
  run_append_iff.2 ⟨w', h, .cons hstep (.nil _)⟩

/-- What is left of a call is what its own transcript leaves. -/
theorem Run.after {w w' : World ι H} {es : List (Event ι H)} (h : Run w es w') (i : ι) :
    After (w.calls i) (transcript i es) (w'.calls i) := by
  induction h with
  | nil w => exact .nil _
  | @cons w _ w'' _ es hstep hrest ih =>
    cases hstep with
    | @mk j q resume x s hcall hstore =>
      rw [transcript_cons]
      by_cases hj : j = i
      · subst hj
        rw [hcall, if_pos rfl]
        simp only [Function.update_self] at ih
        exact .cons x ih
      · rw [if_neg hj]
        simpa only [Function.update_of_ne (Ne.symm hj)] using ih

theorem Run.after_snoc {w w' w'' : World ι H} {i : ι} {entry : Entry (Query.Answer (H := H))}
    {es : List (Event ι H)} (h : Run w es w') (hstep : Step w' ⟨i, entry⟩ w'') :
    After (w.calls i) (transcript i es ++ [entry]) (w''.calls i) := by
  have hafter := (h.snoc hstep).after i
  rwa [transcript_append, transcript_cons, if_pos rfl, transcript_nil] at hafter

theorem Run.servesAll {w w' : World ι H} {es : List (Event ι H)} (h : Run w es w') :
    w.store.ServesAll (es.map (·.entry)) w'.store := by
  induction h with
  | nil w => exact .nil _
  | cons hstep hrest ih =>
    cases hstep with
    | mk hcall hstore => exact .cons hstore ih

theorem Run.after_turn {s : SessionStore} {ops : ι → Op H} {es : List (Event ι H)} {w : World ι H}
    (h : Run (before s ops) es w) {i : ι} {c : Conversation H} {session : SessionRef}
    {r : TurnRequest} (hop : ops i = .turn c session r) :
    After (c.turn session r) (transcript i es) (w.calls i) := by
  have hafter := h.after i
  simpa only [before, hop, Op.course_turn] using hafter

theorem Run.asks {s : SessionStore} {ops : ι → Op H} {es : List (Event ι H)} {w : World ι H}
    (h : Run (before s ops) es w) :
    ∀ e ∈ es, e.entry.question.IsAbout (ops e.caller).key := by
  intro e he
  have hlog := ((ops e.caller).course_asks.after (h.after e.caller)).2
  exact hlog e.entry (List.mem_map.2 ⟨e, by simpa using he, rfl⟩)

theorem Run.proper {s : SessionStore} {ops : ι → Op H} {es es' : List (Event ι H)}
    {w : World ι H} (h : Run (before s ops) es w) (hes : ∀ e ∈ es', e ∈ es) :
    SessionStore.Proper (es'.map (·.entry)) := by
  intro entry hentry
  obtain ⟨e, he, rfl⟩ := List.mem_map.1 hentry
  exact ⟨_, h.asks e (hes e he)⟩

theorem transcript_eq_append_iff {i : ι} {es : List (Event ι H)} {l₁ l₂ : Transcript H} :
    transcript i es = l₁ ++ l₂ ↔
      ∃ es₁ es₂, es = es₁ ++ es₂ ∧ transcript i es₁ = l₁ ∧ transcript i es₂ = l₂ := by
  constructor
  · intro h
    obtain ⟨fs₁, fs₂, hfs, rfl, rfl⟩ := List.map_eq_append_iff.1 h
    obtain ⟨es₁, es₂, rfl, rfl, rfl⟩ := List.filter_eq_append_iff.1 hfs
    exact ⟨es₁, es₂, rfl, rfl, rfl⟩
  · rintro ⟨es₁, es₂, rfl, rfl, rfl⟩
    exact transcript_append i es₁ es₂

theorem transcript_eq_cons_iff {i : ι} {es : List (Event ι H)}
    {entry : Entry (Query.Answer (H := H))} {l : Transcript H} :
    transcript i es = entry :: l ↔
      ∃ es₁ es₂, es = es₁ ++ ⟨i, entry⟩ :: es₂ ∧ transcript i es₁ = [] ∧ transcript i es₂ = l := by
  constructor
  · intro h
    obtain ⟨e, fs, hfs, rfl, rfl⟩ := List.map_eq_cons_iff.1 h
    obtain ⟨es₁, es₂, rfl, hes₁, he, rfl⟩ := List.filter_eq_cons_iff.1 hfs
    obtain rfl : e.caller = i := by simpa using he
    refine ⟨es₁, es₂, rfl, ?_, rfl⟩
    simpa [transcript] using hes₁
  · rintro ⟨es₁, es₂, rfl, hes₁, rfl⟩
    simp [transcript_append, transcript_cons, hes₁]

end World

end Dialogue
