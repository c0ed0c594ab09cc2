import Dialogue.Proofs.Serializable

namespace Dialogue

open Interaction Conversation

/-- Whether a session was saved. -/
def Interaction.Entry.Saves {H : Type} (key : String) (e : Entry (Query.Answer (H := H))) : Prop :=
  ∃ next expected, e = ⟨.save key next expected, .ok ()⟩

namespace SessionStore

variable {H : Type}

/-- A session that has a row but nothing in it. -/
def Emptied (key : String) (s : SessionStore) : Prop :=
  ∃ v, s.load key = .ok (some { version := v })

theorem emptied_clear {s : SessionStore} {key : String} (h : s.version? key ≠ none) :
    Emptied key (s.clear key) := by
  obtain ⟨v, hv⟩ := Option.ne_none_iff_exists'.1 h
  exact ⟨v + 1, by rw [load_clear, hv]; rfl⟩

theorem Emptied.version? {s : SessionStore} {key : String} (h : Emptied key s) :
    s.version? key ≠ none := by
  obtain ⟨v, hload⟩ := h
  simp [version?_of_load hload]

theorem Serves.emptied {s s' : SessionStore} {q : Query H} {x : q.Answer} {key k : String}
    (hs : s.Keyed) (hq : q.IsAbout k) (hx : ¬ Entry.Saves key ⟨q, x⟩) (h : s.Serves q x s')
    (hempty : Emptied key s) : Emptied key s' := by
  by_cases hk : key = k
  · subst hk
    cases h with
    | saved h =>
      obtain ⟨rfl, -⟩ := hq
      exact (hx ⟨_, _, rfl⟩).elim
    | cleared =>
      cases hq
      exact emptied_clear hempty.version?
    | _ => exact hempty
  · obtain ⟨v, hload⟩ := hempty
    exact ⟨v, (h.sameBut hs hq key hk).load_eq.trans hload⟩

/-- An emptied session stays empty until it is saved. -/
theorem ServesAll.emptied {s s' : SessionStore} {log : Transcript H} {key : String}
    (hs : s.Keyed) (hlog : Proper log) (hsaves : ∀ e ∈ log, ¬ e.Saves key)
    (h : s.ServesAll log s') (hempty : Emptied key s) : Emptied key s' := by
  induction h with
  | nil s => exact hempty
  | cons h hrest ih =>
    obtain ⟨⟨k, hq⟩, hlog⟩ := List.forall_mem_cons.1 hlog
    obtain ⟨hx, hsaves⟩ := List.forall_mem_cons.1 hsaves
    exact ih (h.keyed hs) hlog hsaves (h.emptied hs hq hx hempty)

theorem ServesAll.age_le {s s' : SessionStore} {log : Transcript H} (hs : s.Keyed)
    (hlog : Proper log) (h : s.ServesAll log s') (key : String) : s.age key ≤ s'.age key := by
  rcases h.age hs hlog key with hlt | ⟨hversion, -⟩
  · exact Nat.le_of_lt hlt
  · exact Nat.le_of_eq (age_inj.2 hversion.symm)

end SessionStore

namespace Conversation

variable {H : Type} {c : Conversation H} {session : SessionRef} {r : TurnRequest}
  {s : SessionStore} {stored : Option Context} {l : Transcript H} {next : Context} {reply : Reply}

def emptied (version : Option Nat) : Option Context :=
  version.map fun v => { version := v + 1 }

theorem workflowId_getD (stored : Option Context) :
    (stored.getD {}).workflowId = stored.bind (·.workflowId) := by
  cases stored <;> rfl

theorem workflowId_emptied (version : Option Nat) :
    (emptied version).bind (·.workflowId) = none := by
  cases version <;> rfl

/-- Whether a request that is being applied to what was loaded, with all that was asked so far, may
come to something to save. -/
def MaySave (c : Conversation H) (session : SessionRef) (r : TurnRequest) (stored : Option Context)
    (log : Transcript H) : Prop :=
  ∃ l next reply, c.Applies session r stored (log ++ l) (.ok (some next, reply))

/-- A turn whose session is emptied under it, nobody else being there, writes all the same if it may
come to something to save, and either there was no row to empty, or no workflow was running and it
may come to something to save when it is applied again to the emptied session. -/
theorem writes_of_clear (hs : s.Keyed)
    (hstale : (s.clear session.key).version? session.key = stored.map (·.version) ↔
      s.version? session.key = none)
    (hsave : c.MaySave session r stored l)
    (h : s.version? session.key = none ∨ stored.bind (·.workflowId) = none ∧
      c.MaySave session r (emptied (s.version? session.key)) []) :
    ∃ log result s', After (c.turn session r) ((⟨.load session.key, .ok stored⟩ :: l) ++ log)
        (.done (.ok result)) ∧
      (s.clear session.key).ServesAll log s' ∧ ¬ Transcript.Writeless log := by
  obtain ⟨m, next, reply, happlies⟩ := hsave
  have hm := SessionStore.servesAll_quiet (s.clear session.key)
    (List.forall_mem_append.1 happlies.quiet).2
  by_cases hnone : s.version? session.key = none
  · obtain ⟨s', hsaved⟩ := SessionStore.save_of_version (hstale.2 hnone) (stamped stored next)
    refine ⟨m ++ [saving session stored next (.ok ())], reply, s', ?_,
      hm.append (.cons (.saved hsaved) (.nil s')), by simp [Entry.wrote]⟩
    have hended := Ended.once (.saved happlies)
    exact ended_iff.2 (by simpa using hended)
  · obtain ⟨hidle, m', next', reply', happlies'⟩ := h.resolve_left hnone
    -- The first trial is refused, and the look finds no workflow either.
    cases hrefused : (s.clear session.key).save session.key (stamped stored next)
        (stored.map (·.version)) with
    | ok s' =>
      have hfound := (SessionStore.save_ok (SessionStore.keyed_clear hs _) hrefused).1
      exact (hnone (hstale.1 hfound)).elim
    | error e =>
      have he : e.isConflict = true := by
        rw [(SessionStore.save_error hrefused).1]
        rfl
      have hreload := SessionStore.load_clear s session.key
      have hlook : SessionStore.Serves (H := H) (s.clear session.key) (.load session.key)
          (.ok (emptied (s.version? session.key))) (s.clear session.key) := by
        rw [emptied, ← hreload]
        exact .load _ _
      obtain ⟨s', hsaved⟩ := SessionStore.save_of_version
        (SessionStore.version?_of_load hreload) (stamped (emptied (s.version? session.key)) next')
      have hm' := SessionStore.servesAll_quiet (s.clear session.key) happlies'.quiet
      refine ⟨m ++ [saving session stored next (.error e), ⟨.note .conflict, ()⟩,
        ⟨.load session.key, .ok (emptied (s.version? session.key))⟩,
        ⟨.load session.key, .ok (emptied (s.version? session.key))⟩] ++
          (m' ++ [saving session (emptied (s.version? session.key)) next' (.ok ())]),
        reply', s', ?_, ?_, by simp [Entry.wrote]⟩
      · have hsame : (emptied (s.version? session.key)).bind (·.workflowId) =
            (stored.getD {}).workflowId := by
          rw [workflowId_emptied, workflowId_getD, hidle]
        have hended := Ended.twice (.overtaken happlies he) hsame (.saved happlies')
        exact ended_iff.2 (by simpa using hended)
      · have htwice := hm'.append (.cons (.saved hsaved) (.nil s'))
        refine (hm.append ?_).append htwice
        exact .cons (.refused hrefused) (.cons (.noted _ _) (.cons hlook (.cons hlook (.nil _))))

/-- What is loaded twice after a save was refused because of a clear. -/
theorem reloads_after_clear {e : Error} {current stored' : Option Context} {rest : Transcript H}
    {s' : SessionStore}
    (h : (s.clear session.key).ServesAll (saving session stored next (.error e) ::
      ⟨.note .conflict, ()⟩ :: ⟨.load session.key, .ok current⟩ ::
        ⟨.load session.key, .ok stored'⟩ :: rest) s') :
    current = emptied (s.version? session.key) ∧ stored' = emptied (s.version? session.key) := by
  obtain ⟨s₁, hrefused, h⟩ := SessionStore.servesAll_cons_iff.1 h
  obtain rfl := hrefused.unchanged rfl
  obtain ⟨s₂, hnoted, h⟩ := SessionStore.servesAll_cons_iff.1 h
  obtain rfl := hnoted.unchanged rfl
  obtain ⟨s₃, hlook, h⟩ := SessionStore.servesAll_cons_iff.1 h
  obtain ⟨rfl, hcurrent⟩ := hlook.of_load_ok
  obtain ⟨s₄, hreload, -⟩ := SessionStore.servesAll_cons_iff.1 h
  obtain ⟨rfl, hstored'⟩ := hreload.of_load_ok
  rw [SessionStore.load_clear] at hcurrent hstored'
  exact ⟨(Except.ok.inj hcurrent).symm, (Except.ok.inj hstored').symm⟩

/-- A turn whose session is emptied under it writes in no other case. -/
theorem of_writes_of_clear (hs : s.Keyed)
    (hstale : (s.clear session.key).version? session.key = stored.map (·.version) ↔
      s.version? session.key = none)
    (hquiet : ∀ e ∈ l, e.question.IsQuiet) {log : Transcript H}
    {p : Exchange H (Except Error Reply)} {s' : SessionStore}
    (hafter : After (c.turn session r) ((⟨.load session.key, .ok stored⟩ :: l) ++ log) p)
    (hserved : (s.clear session.key).ServesAll log s') (hwrote : ¬ Transcript.Writeless log) :
    c.MaySave session r stored l ∧
      (s.version? session.key = none ∨ stored.bind (·.workflowId) = none ∧
        c.MaySave session r (emptied (s.version? session.key)) []) := by
  have hall : ¬ Transcript.Writeless ((⟨.load session.key, .ok stored⟩ :: l) ++ log) := by
    simp [hwrote]
  obtain ⟨reply', -, pre, stored', l', next', hlog, hpre, happlies'⟩ := turn_commits hafter hall
  rcases hpre with rfl | ⟨first, current, l₀, e, hfirst, hsame, rfl⟩
  · -- The first trial saves.
    obtain ⟨hstored, hlog⟩ := List.cons.inj hlog
    obtain rfl : stored = stored' := by simpa using hstored
    obtain ⟨m, rfl, rfl⟩ := Transcript.split_of_quiet hquiet id hlog
    refine ⟨⟨m, next', reply', happlies'⟩, .inl (hstale.1 ?_)⟩
    obtain ⟨s₁, hm, hserved⟩ := SessionStore.servesAll_append_iff.1 hserved
    obtain ⟨-, hwriteless⟩ := Transcript.writeless_append_iff.1 happlies'.writeless
    obtain rfl := hm.unchanged hwriteless
    obtain ⟨s₂, hsaved, -⟩ := SessionStore.servesAll_cons_iff.1 hserved
    exact (SessionStore.save_ok (SessionStore.keyed_clear hs _) hsaved.of_saved).1
  · -- The first trial is refused, and the second one works on the emptied session.
    cases hfirst with
    | overtaken happlies he =>
      simp only [List.cons_append, List.append_assoc] at hlog
      obtain ⟨hstored, hlog⟩ := List.cons.inj hlog
      obtain rfl : stored = first := by simpa using hstored
      obtain ⟨m, rfl, rfl⟩ := Transcript.split_of_quiet hquiet id hlog
      refine ⟨⟨m, _, _, happlies⟩, .inr ?_⟩
      obtain ⟨s₁, hm, hserved⟩ := SessionStore.servesAll_append_iff.1 hserved
      obtain ⟨-, hwriteless⟩ := Transcript.writeless_append_iff.1 happlies.writeless
      obtain rfl := hm.unchanged hwriteless
      obtain ⟨rfl, rfl⟩ := reloads_after_clear hserved
      refine ⟨?_, l', next', reply', happlies'⟩
      rw [← workflowId_getD, ← hsame, workflowId_emptied]

end Conversation

namespace World

variable {H ι : Type} [DecidableEq ι] {ops : ι → Op H} {s : SessionStore}
  {es₁ es₂ : List (Event ι H)} {w₁ w₂ w : World ι H} {j : ι} {key : String}

theorem Step.cleared (h : Step w₁ ⟨j, ⟨.clear key, .ok ()⟩⟩ w₂) :
    w₂.store = w₁.store.clear key := by
  cases h with
  | mk hcall hstore => exact hstore.of_cleared

theorem Step.calls_of_ne {e : Event ι H} {i : ι} (h : Step w₁ e w₂) (hi : e.caller ≠ i) :
    w₂.calls i = w₁.calls i := by
  cases h with
  | mk hcall hstore => simp [Function.update_of_ne (Ne.symm hi)]

theorem Step.cancels (h₁ : Run (before s ops) es₁ w₁)
    (hclear : Step w₁ ⟨j, ⟨.clear key, .ok ()⟩⟩ w₂) : ∃ k, ops j = .cancel k := by
  rcases Op.closed_of_write (h₁.after_snoc hclear) rfl with
    ⟨_, session, _, _, -, -, hcommits⟩ | ⟨k, hop, -⟩
  · obtain ⟨pre, stored, l, next, hlog, -⟩ := hcommits
    cases List.singleton_inj.1 (List.append_inj' hlog rfl).2
  · exact ⟨k, hop⟩

theorem Step.ne_of_turn (h₁ : Run (before s ops) es₁ w₁)
    (hclear : Step w₁ ⟨j, ⟨.clear key, .ok ()⟩⟩ w₂) {i : ι} {c : Conversation H}
    {session : SessionRef} {r : TurnRequest} (hop : ops i = .turn c session r) : j ≠ i := by
  rintro rfl
  obtain ⟨k, hop'⟩ := hclear.cancels h₁
  cases hop.symm.trans hop'

theorem Run.around (h₁ : Run (before s ops) es₁ w₁) {e : Event ι H} (he : Step w₁ e w₂)
    (h₂ : Run w₂ es₂ w) : Run (before s ops) (es₁ ++ e :: es₂) w :=
  run_append_iff.2 ⟨w₁, h₁, .cons he h₂⟩

/-- A session with a row stays empty after a cancel until it is saved. -/
theorem emptied_after_clear (hs : s.Keyed) (h₁ : Run (before s ops) es₁ w₁)
    (hclear : Step w₁ ⟨j, ⟨.clear key, .ok ()⟩⟩ w₂) (h₂ : Run w₂ es₂ w)
    (hrow : w₁.store.version? key ≠ none) (hsaves : ∀ e ∈ es₂, ¬ e.entry.Saves key) :
    SessionStore.Emptied key w.store := by
  have hproper : SessionStore.Proper (es₂.map (·.entry)) :=
    (h₁.around hclear h₂).proper fun e he => by simp [he]
  have hkeyed : w₂.store.Keyed := (h₁.snoc hclear).keyed hs
  refine h₂.servesAll.emptied hkeyed hproper (by simpa using hsaves) ?_
  rw [hclear.cleared]
  exact SessionStore.emptied_clear hrow

theorem Run.age_of_loaded (hs : s.Keyed) (h : Run (before s ops) es₁ w₁) {i : ι}
    {stored : Option Context} {pre l : Transcript H}
    (hlog : transcript i es₁ = pre ++ ⟨.load key, .ok stored⟩ :: l) :
    (stored.map (·.version)).elim 0 (· + 1) ≤ w₁.store.age key := by
  obtain ⟨es₃, es₄, w₀, rfl, h₃, h₄, hload, -⟩ := h.loaded hlog
  have hproper : SessionStore.Proper (es₄.map (·.entry)) := h.proper fun e he => by simp [he]
  rw [← SessionStore.version?_of_load hload]
  exact h₄.servesAll.age_le (h₃.keyed hs) hproper key

/-- A cancel makes what a call loaded before it out of date, unless there was no row. -/
theorem stale_after_clear (hs : s.Keyed) (h₁ : Run (before s ops) es₁ w₁) {i : ι}
    {stored : Option Context} {pre l : Transcript H}
    (hlog : transcript i es₁ = pre ++ ⟨.load key, .ok stored⟩ :: l) :
    (w₁.store.clear key).version? key = stored.map (·.version) ↔
      w₁.store.version? key = none := by
  have hage := h₁.age_of_loaded hs hlog
  constructor
  · intro hversion
    by_contra hrow
    have hclear := SessionStore.age_clear w₁.store key hrow
    rw [← hversion] at hage
    change (w₁.store.clear key).age key ≤ w₁.store.age key at hage
    omega
  · intro hnone
    simp only [SessionStore.age, hnone, Option.elim_none] at hage
    rw [SessionStore.version?_clear, hnone]
    cases stored with
    | none => rfl
    | some context => exact (Nat.not_succ_le_zero _ hage).elim

/-- What a call loaded before a cancel of a session with a row is out of date after it. -/
theorem reloaded_after_clear (hs : s.Keyed) (h₁ : Run (before s ops) es₁ w₁)
    (hclear : Step w₁ ⟨j, ⟨.clear key, .ok ()⟩⟩ w₂) (h₂ : Run w₂ es₂ w)
    (hrow : w₁.store.version? key ≠ none) {i : ι} {stored : Option Context} {pre l : Transcript H}
    (hlog : transcript i es₁ ++ transcript i es₂ = pre ++ ⟨.load key, .ok stored⟩ :: l)
    (hversion : w.store.version? key = stored.map (·.version)) :
    ∃ m, pre = transcript i es₁ ++ m ∧ transcript i es₂ = m ++ ⟨.load key, .ok stored⟩ :: l := by
  rcases List.append_eq_append_iff.1 hlog with ⟨m, hpre, hes₂⟩ | ⟨m, hes₁, hm⟩
  · exact ⟨m, hpre, hes₂⟩
  cases m with
  | nil => exact ⟨[], by simpa using hes₁.symm, by simpa using hm.symm⟩
  | cons e m =>
    -- The session was loaded before the cancel, which has made it older since.
    obtain ⟨rfl, rfl⟩ := List.cons.inj hm
    exfalso
    have hbefore := h₁.age_of_loaded hs hes₁
    have hproper : SessionStore.Proper (es₂.map (·.entry)) :=
      (h₁.around hclear h₂).proper fun e he => by simp [he]
    have hkeyed : w₂.store.Keyed := (h₁.snoc hclear).keyed hs
    have hafter := h₂.servesAll.age_le hkeyed hproper key
    rw [hclear.cleared, SessionStore.age_clear _ key hrow] at hafter
    rw [← hversion] at hbefore
    change w.store.age key ≤ w₁.store.age key at hbefore
    omega

/-- How a turn under way at a cancel may still write: its first trial met a conflict, it looked
again and found the same workflow id, and it was applied to what it loaded after the cancel. The
workflow id was the same because none was running at first, or because the turn had looked before
the cancel, or because some other call had saved the session between the cancel and the look. -/
def SurvivesBy (c : Conversation H) (session : SessionRef) (r : TurnRequest) (i : ι)
    (es₁ es₂ : List (Event ι H)) (entry : Entry (Query.Answer (H := H))) : Prop :=
  ∃ log l first current stored next reply,
    transcript i es₁ ++ transcript i es₂ = log ++ ⟨.load session.key, .ok stored⟩ :: l ∧
    transcript i es₁ <+: log ∧ c.Rechecks session r log first current ∧
    c.Applies session r stored l (.ok (some next, reply)) ∧
    entry = saving session stored next (.ok ()) ∧
    ((first.getD {}).workflowId = none ∨ transcript i es₁ = log ∨
      ∃ es₃ es₄, es₂ = es₃ ++ ⟨i, ⟨.load session.key, .ok current⟩⟩ :: es₄ ∧
        ∃ e ∈ es₃, e.caller ≠ i ∧ e.entry.Saves session.key)

/-- A turn under way when a session with a row is cancelled writes in one way only. -/
theorem survivesBy_of_write (hs : s.Keyed) {i : ι} {c : Conversation H} {session : SessionRef}
    {r : TurnRequest} (h₁ : Run (before s ops) es₁ w₁)
    (hclear : Step w₁ ⟨j, ⟨.clear session.key, .ok ()⟩⟩ w₂) (h₂ : Run w₂ es₂ w)
    (hop : ops i = .turn c session r) (hflight : transcript i es₁ ≠ [])
    (hrow : w₁.store.version? session.key ≠ none)
    {entry : Entry (Query.Answer (H := H))} {w' : World ι H} (hstep : Step w ⟨i, entry⟩ w')
    (hwrote : entry.wrote = true) : SurvivesBy c session r i es₁ es₂ entry := by
  have h := h₁.around hclear h₂
  have hji : j ≠ i := hclear.ne_of_turn h₁ hop
  have hlog : transcript i (es₁ ++ ⟨j, ⟨.clear session.key, .ok ()⟩⟩ :: es₂) =
      transcript i es₁ ++ transcript i es₂ := by
    simp [transcript_cons, hji]
  have hafter := (h.snoc hstep).after_turn hop
  rw [transcript_append, transcript_cons, if_pos rfl, transcript_nil, hlog] at hafter
  have hall : ¬ Transcript.Writeless (transcript i es₁ ++ transcript i es₂ ++ [entry]) := by
    simp [hwrote]
  obtain ⟨reply, -, pre, stored, l, next, hwhole, hpre, happlies⟩ := turn_commits hafter hall
  obtain ⟨hloaded, hentry⟩ := List.append_inj' hwhole rfl
  obtain rfl : entry = saving session stored next (.ok ()) := List.singleton_inj.1 hentry
  -- What it saves it has loaded after the cancel, so it is its second trial.
  have hversion : w.store.version? session.key = stored.map (·.version) := by
    cases hstep with
    | mk hcall hstore => exact (SessionStore.save_ok (h.keyed hs) hstore.of_saved).1
  obtain ⟨m, hprem, hes₂⟩ := reloaded_after_clear hs h₁ hclear h₂ hrow hloaded hversion
  rcases hpre with rfl | ⟨first, current, hrechecks⟩
  · exact (hflight (List.append_eq_nil_iff.1 hprem.symm).1).elim
  refine ⟨pre, l, first, current, stored, next, reply, hloaded, ⟨m, hprem.symm⟩, hrechecks,
    happlies, rfl, ?_⟩
  obtain ⟨l₀, e, hfirst, hsame, hpre⟩ := hrechecks
  rcases List.eq_nil_or_concat m with rfl | ⟨m', entry, rfl⟩
  · exact .inr (.inl (by simpa using hprem.symm))
  -- It looked after the cancel.
  rw [List.concat_eq_append, ← List.append_assoc, hpre] at hprem
  obtain ⟨hm', hentry⟩ := List.append_inj' hprem rfl
  obtain rfl := List.singleton_inj.1 hentry
  rw [List.concat_eq_append, List.append_assoc] at hes₂
  obtain ⟨es₃, es₄, rfl, hes₃, hes₄⟩ := transcript_eq_append_iff.1 hes₂
  obtain ⟨es₅, es₆, rfl, hes₅, -⟩ := transcript_eq_cons_iff.1 hes₄
  by_cases hothers : ∃ e ∈ es₃ ++ es₅, e.entry.Saves session.key
  · obtain ⟨e, he, hsaves⟩ := hothers
    refine .inr (.inr ⟨es₃ ++ es₅, es₆, by simp, e, he, ?_, hsaves⟩)
    rintro rfl
    have hmem : e.entry ∈ transcript e.caller es₁ ++ m' := by
      rw [← hes₃]
      have hmem : e.entry ∈ transcript e.caller (es₃ ++ es₅) :=
        List.mem_map.2 ⟨e, by simpa using he, rfl⟩
      simp only [transcript_append, hes₅, List.append_nil] at hmem
      exact List.mem_append_right _ hmem
    rw [← hm'] at hmem
    obtain ⟨next', expected, hentry⟩ := hsaves
    have hquiet := hfirst.conflict_writeless e.entry hmem
    rw [hentry] at hquiet
    cases hquiet
  · left
    rw [← List.append_assoc] at h₂
    obtain ⟨w₃, h₃, h₄⟩ := run_append_iff.1 h₂
    obtain ⟨w₄, hlook, -⟩ := run_cons_iff.1 h₄
    obtain ⟨v, hempty⟩ := emptied_after_clear hs h₁ hclear h₃ hrow
      fun e he hsaves => hothers ⟨e, he, hsaves⟩
    cases hlook with
    | mk hcall hstore =>
      obtain ⟨-, hload⟩ := hstore.of_load_ok
      cases hempty.symm.trans hload
      exact hsame.symm

/-- A cancel wins over a turn that is being applied to a running workflow, as long as no other call
saves the session after it: the turn writes nothing and the session stays empty. -/
theorem cancel_wins (hs : s.Keyed) {i : ι} {c : Conversation H} {session : SessionRef}
    {r : TurnRequest} (hop : ops i = .turn c session r) (h₁ : Run (before s ops) es₁ w₁)
    (hclear : Step w₁ ⟨j, ⟨.clear session.key, .ok ()⟩⟩ w₂) (h₂ : Run w₂ es₂ w)
    {stored : Option Context} {l : Transcript H}
    (hlog : transcript i es₁ = ⟨.load session.key, .ok stored⟩ :: l)
    (hquiet : ∀ e ∈ l, e.question.IsQuiet) (hrunning : (stored.getD {}).workflowId ≠ none)
    (hothers : ∀ e ∈ es₂, e.caller ≠ i → ¬ e.entry.Saves session.key) :
    Transcript.Writeless (transcript i es₂) ∧ SessionStore.Emptied session.key w.store := by
  -- A running workflow was loaded, so the session has a row for the cancel to empty.
  have hrow : w₁.store.version? session.key ≠ none := by
    intro hnone
    have hloaded : transcript i es₁ = [] ++ ⟨.load session.key, .ok stored⟩ :: l := hlog
    have hstale := (stale_after_clear hs h₁ hloaded).2 hnone
    rw [SessionStore.version?_clear, hnone] at hstale
    cases stored with
    | none => exact hrunning rfl
    | some context => cases hstale
  have hwriteless : Transcript.Writeless (transcript i es₂) := by
    intro entry hentry
    by_contra hwrote
    obtain ⟨l₁, l₂, hes₂⟩ := List.append_of_mem hentry
    obtain ⟨es₃, es₄, rfl, -, hes₄⟩ := transcript_eq_append_iff.1 hes₂
    obtain ⟨es₅, es₆, rfl, -, -⟩ := transcript_eq_cons_iff.1 hes₄
    rw [← List.append_assoc] at h₂
    obtain ⟨w₃, h₃, h₄⟩ := run_append_iff.1 h₂
    obtain ⟨w₄, hstep, -⟩ := run_cons_iff.1 h₄
    obtain ⟨log, l', first, current, stored', next, reply, -, ⟨m, hm⟩, hrechecks, -, -, hway⟩ :=
      survivesBy_of_write hs h₁ hclear h₃ hop (by simp [hlog]) hrow hstep (by simpa using hwrote)
    obtain ⟨l₀, e, -, -, rfl⟩ := hrechecks
    rw [hlog] at hm
    rcases hway with hidle | hlooked | ⟨es₇, es₈, hsplit, e', he', hother, hsaves⟩
    · obtain ⟨hstored, -⟩ := List.cons.inj hm
      obtain rfl : stored = first := by simpa using hstored
      exact hrunning hidle
    · -- What is asked while a request is applied is no look.
      obtain ⟨-, rfl⟩ := List.cons.inj (hlog.symm.trans hlooked)
      exact hquiet ⟨.load session.key, .ok current⟩ (by simp)
    · refine hothers e' ?_ hother hsaves
      rw [← List.append_assoc, hsplit]
      simp [he']
  refine ⟨hwriteless, emptied_after_clear hs h₁ hclear h₂ hrow fun e he hsaves => ?_⟩
  by_cases hcaller : e.caller = i
  · obtain ⟨next, expected, hentry⟩ := hsaves
    have hwrote := hwriteless e.entry (List.mem_map.2 ⟨e, by simpa using ⟨he, hcaller⟩, rfl⟩)
    rw [hentry] at hwrote
    cases hwrote
  · exact hothers e he hcaller hsaves

theorem Run.alone {i : ι} {log : Transcript H} {p : Exchange H (Except Error Reply)}
    {s' : SessionStore} (hafter : After (w.calls i) log p) (hserved : w.store.ServesAll log s') :
    ∃ w', Run w (log.map fun entry => ⟨i, entry⟩) w' ∧ w'.store = s' ∧ w'.calls i = p := by
  induction log generalizing w with
  | nil =>
    cases hserved
    exact ⟨w, .nil w, rfl, (after_nil_iff.1 hafter).symm⟩
  | cons entry log ih =>
    obtain ⟨q, x⟩ := entry
    obtain ⟨resume, hcall, hafter⟩ := after_cons_iff.1 hafter
    obtain ⟨s₁, hstore, hserved⟩ := SessionStore.servesAll_cons_iff.1 hserved
    obtain ⟨w', hrun, hw'⟩ := ih (w := ⟨s₁, Function.update w.calls i (resume x)⟩)
      (by simpa using hafter) hserved
    exact ⟨w', .cons (.mk hcall hstore) hrun, hw'⟩

/-- A turn that is being applied when its session is emptied, and is left to itself from there, may
write just in case it may come to something to save, and either the session had no row, or no
workflow was running and it may come to something to save when it is applied again to the emptied
session. -/
theorem alone_writes_iff (hs : s.Keyed) {i : ι} {c : Conversation H} {session : SessionRef}
    {r : TurnRequest} (hop : ops i = .turn c session r) (h₁ : Run (before s ops) es₁ w₁)
    (hclear : Step w₁ ⟨j, ⟨.clear session.key, .ok ()⟩⟩ w₂) {stored : Option Context}
    {l : Transcript H} (hlog : transcript i es₁ = ⟨.load session.key, .ok stored⟩ :: l)
    (hquiet : ∀ e ∈ l, e.question.IsQuiet) :
    (∃ es₂ w, Run w₂ es₂ w ∧ (∀ e ∈ es₂, e.caller = i) ∧
        ¬ Transcript.Writeless (transcript i es₂)) ↔
      c.MaySave session r stored l ∧
        (w₁.store.version? session.key = none ∨ stored.bind (·.workflowId) = none ∧
          c.MaySave session r (emptied (w₁.store.version? session.key)) []) := by
  have hkeyed := h₁.keyed hs
  have hloaded : transcript i es₁ = [] ++ ⟨.load session.key, .ok stored⟩ :: l := hlog
  have hstale := stale_after_clear hs h₁ hloaded
  have hji : j ≠ i := hclear.ne_of_turn h₁ hop
  constructor
  · rintro ⟨es₂, w, h₂, hown, hwrote⟩
    have hafter := (h₁.around hclear h₂).after_turn hop
    have hserved := h₂.servesAll
    rw [hclear.cleared] at hserved
    have hown : transcript i es₂ = es₂.map (·.entry) := by
      rw [transcript, List.filter_eq_self.2 (by simpa using hown)]
    rw [transcript_append, transcript_cons, if_neg hji, hlog] at hafter
    exact of_writes_of_clear hkeyed hstale hquiet hafter (hown ▸ hserved) hwrote
  · rintro ⟨hsave, h⟩
    obtain ⟨log, result, s', hafter, hserved, hwrote⟩ := writes_of_clear hkeyed hstale hsave h
    obtain ⟨p, hp, hrest⟩ := after_append_iff.1 hafter
    have hcall : w₂.calls i = p := by
      rw [hclear.calls_of_ne hji]
      exact (hlog ▸ h₁.after_turn hop).unique hp
    rw [← hclear.cleared] at hserved
    obtain ⟨w, h₂, -, -⟩ := Run.alone (hcall ▸ hrest) hserved
    refine ⟨_, w, h₂, by simp, ?_⟩
    simpa [transcript, List.filter_map, Function.comp_def] using hwrote

/-- A cancel of a session with a row leaves it empty until it is saved, and a turn under way may
save it only when it is applied again to what it loads after the cancel. A turn that is being
applied and then left to itself writes after all just in case it may come to something to save, and
either there was no row to empty, or no workflow was running and it may come to something to save on
the emptied session too. -/
theorem Run.cancelled (hs : s.Keyed) {i : ι} {c : Conversation H} {session : SessionRef}
    {r : TurnRequest} (hop : ops i = .turn c session r) (h₁ : Run (before s ops) es₁ w₁)
    (hflight : transcript i es₁ ≠ []) (hclear : Step w₁ ⟨j, ⟨.clear session.key, .ok ()⟩⟩ w₂) :
    (w₁.store.version? session.key ≠ none → ∀ es₂ w, Run w₂ es₂ w →
      ((∀ e ∈ es₂, ¬ e.entry.Saves session.key) → SessionStore.Emptied session.key w.store) ∧
      ∀ entry w', Step w ⟨i, entry⟩ w' → entry.wrote = true →
        SurvivesBy c session r i es₁ es₂ entry) ∧
    ∀ stored l, transcript i es₁ = ⟨.load session.key, .ok stored⟩ :: l →
      (∀ e ∈ l, e.question.IsQuiet) →
      ((∃ es₂ w, Run w₂ es₂ w ∧ (∀ e ∈ es₂, e.caller = i) ∧
          ¬ Transcript.Writeless (transcript i es₂)) ↔
        c.MaySave session r stored l ∧
          (w₁.store.version? session.key = none ∨ stored.bind (·.workflowId) = none ∧
            c.MaySave session r (emptied (w₁.store.version? session.key)) [])) := by
  refine ⟨fun hrow es₂ w h₂ => ⟨?_, ?_⟩, ?_⟩
  · exact fun hsaves => emptied_after_clear hs h₁ hclear h₂ hrow hsaves
  · exact fun entry w' hstep hwrote =>
      survivesBy_of_write hs h₁ hclear h₂ hop hflight hrow hstep hwrote
  · exact fun stored l hlog hquiet => alone_writes_iff hs hop h₁ hclear hlog hquiet

def startBeforeClear (stored : Context) : List (Event Bool Unit) :=
  [⟨false, ⟨.note (.command .cancel), ()⟩⟩, ⟨true, ⟨.load "user", .ok (some stored)⟩⟩,
    ⟨true, ⟨.now, ⟨0, 0⟩⟩⟩, ⟨true, ⟨.note (.turn "greeting" "awaiting_input"), ()⟩⟩]

def startAfterClear : List (Event Bool Unit) :=
  [⟨true, ⟨.save "user" { greeted with version := 2 } (some 1),
      .error (.versionConflict "user" (some 1) (some 2))⟩⟩,
    ⟨true, ⟨.note .conflict, ()⟩⟩, ⟨true, ⟨.load "user", .ok (some { version := 2 })⟩⟩]

theorem run_startBeforeClear (stored : Context) : ∃ w₁ w₂,
    Run (before (.memory [("user", stored)]) startAndCancel) (startBeforeClear stored) w₁ ∧
      w₁.store = .memory [("user", stored)] ∧ Step w₁ ⟨false, ⟨.clear "user", .ok ()⟩⟩ w₂ ∧
      (stored = greeted → ∃ w, Run w₂ startAfterClear w) := by
  refine ⟨_, _, .cons (.mk rfl (.noted _ _)) <| .cons (.mk rfl (.load _ _)) <|
    .cons (.mk rfl (.timed _ _)) <| .cons (.mk rfl (.noted _ _)) <| .nil _, rfl,
    .mk rfl (.cleared _ _), ?_⟩
  rintro rfl
  exact ⟨_, .cons (.mk rfl (.refused rfl)) <| .cons (.mk rfl (.noted _ _)) <|
    .cons (.mk rfl (.load _ _)) <| .nil _⟩

theorem greeter_maySave (stored : Option Context) :
    greeter.MaySave ⟨"user", none⟩ (.start "greeting") stored [] :=
  ⟨[⟨.now, ⟨0, 0⟩⟩, ⟨.note (.turn "greeting" "awaiting_input"), ()⟩], _, _,
    .cons _ (.cons _ (.nil _))⟩

/-- A cancel wins over a start in the place of a running greeting, but not over one where no
workflow was running. -/
theorem cancelled_startBeforeClear :
    (∃ w₁ w₂ w,
      Run (before (.memory [("user", greeted)]) startAndCancel) (startBeforeClear greeted) w₁ ∧
        Step w₁ ⟨false, ⟨.clear "user", .ok ()⟩⟩ w₂ ∧ Run w₂ startAfterClear w ∧
        SessionStore.Emptied "user" w.store) ∧
    ∃ w₁ w₂ es₂ w,
      Run (before (.memory [("user", { version := 2 })]) startAndCancel)
          (startBeforeClear { version := 2 }) w₁ ∧
        Step w₁ ⟨false, ⟨.clear "user", .ok ()⟩⟩ w₂ ∧ Run w₂ es₂ w ∧
        ¬ Transcript.Writeless (transcript true es₂) := by
  have hop : startAndCancel true = .turn greeter ⟨"user", none⟩ (.start "greeting") := rfl
  have hflight : ∀ stored, transcript true (startBeforeClear stored) ≠ [] := by
    simp [startBeforeClear, transcript_cons]
  constructor
  · have hkeyed : SessionStore.Keyed (.memory [("user", greeted)]) := trivial
    obtain ⟨w₁, w₂, h₁, hstore, hclear, hrest⟩ := run_startBeforeClear greeted
    obtain ⟨w, h₂⟩ := hrest rfl
    have hrow : w₁.store.version? "user" ≠ none := by
      rw [hstore]
      decide
    obtain ⟨hempty, -⟩ := (Run.cancelled hkeyed hop h₁ (hflight _) hclear).1 hrow _ _ h₂
    refine ⟨w₁, w₂, w, h₁, hclear, h₂, hempty ?_⟩
    simp [startAfterClear, Entry.Saves]
  · have hkeyed : SessionStore.Keyed (.memory [("user", { version := 2 })]) := trivial
    obtain ⟨w₁, w₂, h₁, hstore, hclear, -⟩ := run_startBeforeClear { version := 2 }
    have hwrites := (Run.cancelled hkeyed hop h₁ (hflight _) hclear).2 (some { version := 2 })
      [⟨.now, ⟨0, 0⟩⟩, ⟨.note (.turn "greeting" "awaiting_input"), ()⟩] rfl
      (by simp [Query.IsQuiet])
    obtain ⟨es₂, w, h₂, -, hwrote⟩ := hwrites.2
      ⟨⟨[], _, _, .cons _ (.cons _ (.nil _))⟩, .inr ⟨rfl, greeter_maySave _⟩⟩
    exact ⟨w₁, w₂, es₂, w, h₁, hclear, h₂, hwrote⟩

end World

end Dialogue
