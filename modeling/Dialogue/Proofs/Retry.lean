import Dialogue.Pattern.Reader
import Dialogue.Proofs.Serializable

namespace Dialogue

open Interaction Conversation

theorem SessionStore.ServesAll.sameAt_of_unwritten {H : Type} {s s' : SessionStore}
    {log : Transcript H} {key : String} (hs : s.Keyed)
    (hlog : ∀ e ∈ log, ∃ k, e.question.IsAbout k ∧ (e.wrote = true → k ≠ key))
    (h : s.ServesAll log s') : SameAt key s s' := by
  induction h with
  | nil s => exact .refl key s
  | @cons s s₁ s₂ q x log h hrest ih =>
    obtain ⟨⟨k, hq, hk⟩, hlog⟩ := List.forall_mem_cons.1 hlog
    have hrest := ih (h.keyed hs) hlog
    cases hx : Entry.wrote ⟨q, x⟩ with
    | true => exact (h.sameBut hs hq key (hk hx).symm).trans hrest
    | false =>
      obtain rfl := h.unchanged hx
      exact hrest

namespace World

variable {H ι : Type} [DecidableEq ι] {ops : ι → Op H} {s : SessionStore}
  {es : List (Event ι H)} {w : World ι H}

/-- Whether another call wrote a session between two loads of it by a turn, the first of which gave
`current` and the second `stored`. -/
def WrittenBetween (ops : ι → Op H) (key : String) (i : ι) (current stored : Option Context)
    (es : List (Event ι H)) : Prop :=
  ∃ es₁ es₂ es₃, es = es₁ ++ ⟨i, ⟨.load key, .ok current⟩⟩ ::
      (es₂ ++ ⟨i, ⟨.load key, .ok stored⟩⟩ :: es₃) ∧
    ∃ e ∈ es₂, e.caller ≠ i ∧ e.entry.wrote = true ∧ (ops e.caller).key = key

/-- Two loads one after the other give the same unless another call writes in between. -/
theorem Run.reloaded (hs : s.Keyed) (h : Run (before s ops) es w) {i : ι} {key : String}
    {current stored : Option Context} {pre rest : Transcript H}
    (hlog : transcript i es = pre ++ ⟨.load key, .ok current⟩ :: ⟨.load key, .ok stored⟩ :: rest) :
    stored = current ∨ WrittenBetween ops key i current stored es := by
  obtain ⟨es₁, es₂, rfl, -, hlog₂⟩ := transcript_eq_append_iff.1 hlog
  obtain ⟨es₃, es₄, rfl, -, hlog₄⟩ := transcript_eq_cons_iff.1 hlog₂
  obtain ⟨es₅, es₆, rfl, hlog₅, -⟩ := transcript_eq_cons_iff.1 hlog₄
  have hasks := h.asks
  rw [← List.append_assoc] at h
  obtain ⟨w₁, h₁, h⟩ := run_append_iff.1 h
  obtain ⟨w₂, hlook, h⟩ := run_cons_iff.1 h
  obtain ⟨w₃, h₂, h⟩ := run_append_iff.1 h
  obtain ⟨w₄, hload, -⟩ := run_cons_iff.1 h
  by_cases hother : ∃ e ∈ es₅, e.entry.wrote = true ∧ (ops e.caller).key = key
  · right
    obtain ⟨e, he, hwrote, hkey⟩ := hother
    refine ⟨es₁ ++ es₃, es₅, es₆, by simp, e, he, ?_, hwrote, hkey⟩
    rintro rfl
    have hmem : e.entry ∈ transcript e.caller es₅ := List.mem_map.2 ⟨e, by simpa using he, rfl⟩
    rw [hlog₅] at hmem
    cases hmem
  · -- Between the loads nothing of the session changed.
    left
    cases hlook with
    | mk hcall hstore =>
      obtain ⟨rfl, hcurrent⟩ := hstore.of_load_ok
      have hsame : SessionStore.SameAt key w₁.store w₃.store := by
        refine h₂.servesAll.sameAt_of_unwritten (h₁.keyed hs) fun entry hentry => ?_
        obtain ⟨e, he, rfl⟩ := List.mem_map.1 hentry
        exact ⟨_, hasks e (by simp [he]), fun hwrote hkey => hother ⟨e, he, hwrote, hkey⟩⟩
      cases hload with
      | mk hcall' hstore' =>
        obtain ⟨rfl, hstored⟩ := hstore'.of_load_ok
        exact Except.ok.inj (hstored.symm.trans (hsame.load_eq.trans hcurrent))

/-- A turn is tried at most twice. One that wrote was applied, in the trial that it saved, to the
workflow it had loaded first, unless another call wrote its session between its look at what was
running and its second load. -/
theorem Run.same_workflow (hs : s.Keyed) (h : Run (before s ops) es w) {i : ι}
    {c : Conversation H} {session : SessionRef} {r : TurnRequest}
    (hop : ops i = .turn c session r) :
    (∀ result, w.calls i = .done result → c.Ended session r (transcript i es) result) ∧
    (¬ Transcript.Writeless (transcript i es) →
      ∃ first rest pre stored l next reply,
        transcript i es = ⟨.load session.key, .ok first⟩ :: rest ∧
        transcript i es = (pre ++ ⟨.load session.key, .ok stored⟩ :: l) ++
          [saving session stored next (.ok ())] ∧
        c.Opening session r pre ∧ c.Applies session r stored l (.ok (some next, reply)) ∧
        ((stored.getD {}).workflowId = (first.getD {}).workflowId ∨
          ∃ current, WrittenBetween ops session.key i current stored es)) := by
  have hafter := h.after_turn hop
  refine ⟨fun result hdone => ended_iff.1 (hdone ▸ hafter), fun hwrote => ?_⟩
  obtain ⟨reply, -, pre, stored, l, next, hlog, hpre, happlies⟩ := turn_commits hafter hwrote
  rcases hpre with rfl | ⟨first, current, l₀, e, hfirst, hsame, rfl⟩
  · exact ⟨stored, _, [], stored, l, next, reply, hlog, hlog, .inl rfl, happlies, .inl rfl⟩
  · have hopening : c.Opening session r
        ((⟨.load session.key, .ok first⟩ :: l₀) ++ [⟨.load session.key, .ok current⟩]) :=
      .inr ⟨first, current, l₀, e, hfirst, hsame, rfl⟩
    have hloads : transcript i es = (⟨.load session.key, .ok first⟩ :: l₀) ++
        ⟨.load session.key, .ok current⟩ :: ⟨.load session.key, .ok stored⟩ ::
          (l ++ [saving session stored next (.ok ())]) := by
      simpa using hlog
    refine ⟨first, _, _, stored, l, next, reply, hloads, hlog, hopening, happlies, ?_⟩
    rcases h.reloaded hs hloads with rfl | hbetween
    · left
      rw [← hsame]
      cases stored <;> rfl
    · exact .inr ⟨current, hbetween⟩

def asking (id : String) : Workflow where
  id := id
  startStepId := "ask"
  steps := [{ id := "ask", kind := some .input, next := some (.fixed "ask") }]

def assembly : Conversation Unit :=
  { engine := { registry := ⟨[asking "chat", asking "vote"]⟩, actions := {} } }

def waiting (id : String) (vars : Record) (version : Nat) : Context where
  workflowId := some id
  currentStepId := some "ask"
  vars := vars
  history := ["ask"]
  startedAt := some ⟨0, 0⟩
  version := version

def threeCalls : Fin 3 → Op Unit
  | 0 => .turn assembly ⟨"user", none⟩ (.input "yes")
  | 1 => .turn assembly ⟨"user", none⟩ (.input "hello")
  | 2 => .turn assembly ⟨"user", none⟩ (.start "vote")

/-- The vote is started after the first call has seen that the chat still runs, and before it loads
the session again. -/
def carried : List (Event (Fin 3) Unit) :=
  [⟨0, ⟨.load "user", .ok (some (waiting "chat" [] 1))⟩⟩,
    ⟨0, ⟨.note (.turn "chat" "awaiting_input"), ()⟩⟩,
    ⟨1, ⟨.load "user", .ok (some (waiting "chat" [] 1))⟩⟩,
    ⟨1, ⟨.note (.turn "chat" "awaiting_input"), ()⟩⟩,
    ⟨1, ⟨.save "user" (waiting "chat" [("ask", .text "hello")] 2) (some 1), .ok ()⟩⟩,
    ⟨0, ⟨.save "user" (waiting "chat" [("ask", .text "yes")] 2) (some 1),
      .error (.versionConflict "user" (some 1) (some 2))⟩⟩,
    ⟨0, ⟨.note .conflict, ()⟩⟩,
    ⟨0, ⟨.load "user", .ok (some (waiting "chat" [("ask", .text "hello")] 2))⟩⟩,
    ⟨2, ⟨.load "user", .ok (some (waiting "chat" [("ask", .text "hello")] 2))⟩⟩,
    ⟨2, ⟨.now, ⟨0, 0⟩⟩⟩,
    ⟨2, ⟨.note (.turn "vote" "awaiting_input"), ()⟩⟩,
    ⟨2, ⟨.save "user" (waiting "vote" [] 3) (some 2), .ok ()⟩⟩,
    ⟨0, ⟨.load "user", .ok (some (waiting "vote" [] 3))⟩⟩,
    ⟨0, ⟨.note (.turn "vote" "awaiting_input"), ()⟩⟩,
    ⟨0, ⟨.save "user" (waiting "vote" [("ask", .text "yes")] 4) (some 3), .ok ()⟩⟩]

theorem run_carried : ∃ w,
    Run (before (.memory [("user", waiting "chat" [] 1)]) threeCalls) carried w :=
  ⟨_, .cons (.mk rfl (.load _ _)) <| .cons (.mk rfl (.noted _ _)) <|
    .cons (.mk rfl (.load _ _)) <| .cons (.mk rfl (.noted _ _)) <| .cons (.mk rfl (.saved rfl)) <|
    .cons (.mk rfl (.refused rfl)) <| .cons (.mk rfl (.noted _ _)) <|
    .cons (.mk rfl (.load _ _)) <| .cons (.mk rfl (.load _ _)) <| .cons (.mk rfl (.timed _ _)) <|
    .cons (.mk rfl (.noted _ _)) <| .cons (.mk rfl (.saved rfl)) <|
    .cons (.mk rfl (.load _ _)) <| .cons (.mk rfl (.noted _ _)) <| .cons (.mk rfl (.saved rfl)) <|
    .nil _⟩

/-- The answer to the chat is given to the vote. -/
theorem same_workflow_carried : ∃ w : World (Fin 3) Unit,
    Run (before (.memory [("user", waiting "chat" [] 1)]) threeCalls) carried w ∧
    ¬ Transcript.Writeless (transcript 0 carried) ∧
    (transcript 0 carried).head? = some ⟨.load "user", .ok (some (waiting "chat" [] 1))⟩ ∧
    ⟨.save "user" (waiting "vote" [("ask", .text "yes")] 4) (some 3), .ok ()⟩ ∈
      transcript 0 carried ∧
    ∃ current, WrittenBetween threeCalls "user" 0 current (some (waiting "vote" [] 3)) carried := by
  obtain ⟨w, hrun⟩ := run_carried
  have hkeyed : SessionStore.Keyed (.memory [("user", waiting "chat" [] 1)]) := trivial
  have hwrote : ¬ Transcript.Writeless (transcript 0 carried) := by
    intro hnone
    have hlast := hnone _ (List.getLast_mem (by decide : transcript 0 carried ≠ []))
    cases hlast
  obtain ⟨first, rest, pre, stored, l, next, reply, hfirst, hlog, -, -, hsame⟩ :=
    (Run.same_workflow hkeyed hrun (i := 0) rfl).2 hwrote
  cases congrArg List.head? hfirst
  have hlast := congrArg List.getLast? hlog
  rw [List.getLast?_append, List.getLast?_singleton] at hlast
  have hversion : some 3 = stored.map (·.version) :=
    congrArg (fun e => match e.question with
      | .save _ _ expected => expected
      | _ => none) (Option.some.inj hlast)
  have hmem : ⟨.load "user", .ok stored⟩ ∈ transcript 0 carried := by
    rw [hlog]
    simp
  have hloads : stored = some (waiting "chat" [] 1) ∨
      stored = some (waiting "chat" [("ask", .text "hello")] 2) ∨
      stored = some (waiting "vote" [] 3) := by
    simpa [transcript, carried] using hmem
  rcases hloads with rfl | rfl | rfl
  · cases hversion
  · cases hversion
  · exact ⟨w, hrun, hwrote, rfl, List.mem_of_getLast? rfl, hsame.resolve_left (by decide)⟩

end World

end Dialogue
