import Dialogue.Proofs.ContextText
import Dialogue.Proofs.Serializable

namespace Dialogue

open Interaction

inductive StoreCall where
  | load (key : String)
  | save (key : String) (c : Context) (expected : Option Nat)
  | clear (key : String)

inductive StoreAnswer where
  | loaded (found : Except Error (Option Context))
  | saved (done : Except Error Unit)
  | cleared

/-- Whether a call saves nothing but contexts that programs make. -/
def StoreCall.Proper : StoreCall → Prop
  | .save _ c _ => c.Proper
  | .load _ | .clear _ => True

/-- What a context is loaded as when it comes back from its text. -/
def Context.reloaded (c : Context) : Except Error (Option Context) :=
  match c.reread with
  | some c => .ok (some c)
  | none => .error .malformedValue

/-- The answer with a loaded context as it comes back from its text. -/
def StoreAnswer.reread : StoreAnswer → StoreAnswer
  | .loaded (.ok (some c)) => .loaded c.reloaded
  | answer => answer

structure SessionRow.Keeps (r : SessionRow) (c : Context) : Prop where
  version : r.version = c.version
  text : (Context.ofText? r.text).map (fun read => { read with version := r.version }) = c.reread

namespace SessionRow

theorem keeps_saved {c : Context} (hc : c.Proper) (key : String) :
    Keeps ⟨key, c.toText, c.version⟩ c where
  version := rfl
  text := by
    rw [Context.ofText?_toText hc, Context.reread]
    split
    · cases Value.rereadFields c.vars <;> rfl
    · rfl

theorem keeps_emptied {r : SessionRow} {c : Context} (h : r.Keeps c) :
    (SessionTable.emptied r).Keeps { c.clear with version := c.version + 1 } where
  version := congrArg (· + 1) h.version
  text := by
    rw [SessionTable.emptied, SessionStore.ofText?_toText_empty, h.version]
    rfl

end SessionRow

namespace StoreAnswer

/-- An answer stays as it is if and only if what it loads comes back as it was. -/
theorem reread_eq_iff {answer : StoreAnswer} :
    answer.reread = answer ↔ ∀ c, answer = .loaded (.ok (some c)) → c.Lasts := by
  constructor
  · rintro h c rfl
    rw [reread, Context.reloaded] at h
    cases hread : c.reread with
    | none => simp [hread] at h
    | some c' =>
      simp only [hread, loaded.injEq, Except.ok.injEq, Option.some.injEq] at h
      subst h
      exact Context.reread_eq_self_iff.1 hread
  · intro h
    cases answer with
    | saved done => rfl
    | cleared => rfl
    | loaded found =>
      cases found with
      | error e => rfl
      | ok found =>
        cases found with
        | none => rfl
        | some c =>
          rw [reread, Context.reloaded, Context.reread_eq_self_iff.2 (h c rfl)]

theorem map_reread_eq_iff {answers : List StoreAnswer} : answers.map reread = answers ↔
    ∀ c, .loaded (.ok (some c)) ∈ answers → c.Lasts := by
  induction answers with
  | nil => simp
  | cons answer answers ih =>
    rw [List.map_cons, List.cons.injEq, ih, reread_eq_iff]
    constructor
    · rintro ⟨hfirst, hrest⟩ c hc
      rcases List.mem_cons.1 hc with hc | hc
      · exact hfirst c hc.symm
      · exact hrest c hc
    · exact fun h => ⟨fun c hc => h c (hc ▸ List.mem_cons_self ..),
        fun c hc => h c (List.mem_cons_of_mem _ hc)⟩

end StoreAnswer

/-- Whether a question saves nothing but a context that comes back as it was. -/
def Query.IsLasting {H : Type} : Query H → Prop
  | .save _ c _ => c.Proper ∧ c.Lasts
  | .load _ | .clear _ | .call _ | .now | .note _ => True

namespace SessionStore

variable {s t s' t' : SessionStore} {key : String} {c : Context} {expected : Option Nat}

/-- Whether a table has a row for every context of a map and no others. -/
def Mirrors : SessionStore → SessionStore → Prop
  | .memory m, .table t => t.Keyed ∧ ∀ key, (m.lookup key = none ∧ t.row? key = none) ∨
      ∃ c r, m.lookup key = some c ∧ t.row? key = some r ∧ r.Keeps c
  | _, _ => False

theorem mirrors_nil : Mirrors (.memory []) (.table []) :=
  ⟨List.nodup_nil, fun _ => .inl ⟨rfl, rfl⟩⟩

theorem Mirrors.keyed (h : Mirrors s t) : s.Keyed ∧ t.Keyed := by
  cases s with
  | memory m =>
    cases t with
    | memory t => exact h.elim
    | table t => exact ⟨trivial, h.1⟩
  | table m => exact h.elim

theorem Mirrors.version? (h : Mirrors s t) (key : String) : t.version? key = s.version? key := by
  cases s with
  | memory m =>
    cases t with
    | memory t => exact h.elim
    | table t =>
      rcases h.2 key with ⟨hm, ht⟩ | ⟨c, r, hm, ht, hkeeps⟩
      · simp [SessionStore.version?, hm, ht]
      · simp [SessionStore.version?, hm, ht, hkeeps.version]
  | table m => exact h.elim

/-- A load finds what comes back of the context that the map has. -/
theorem Mirrors.load (h : Mirrors s t) (key : String) :
    StoreAnswer.loaded (t.load key) = (StoreAnswer.loaded (s.load key)).reread := by
  cases s with
  | memory m =>
    cases t with
    | memory t => exact h.elim
    | table t =>
      rcases h.2 key with ⟨hm, ht⟩ | ⟨c, r, hm, ht, hkeeps⟩
      · simp [SessionStore.load, SessionMap.load, SessionTable.load, StoreAnswer.reread, hm, ht]
      · simp only [SessionStore.load, SessionMap.load, SessionTable.load, hm, ht,
          StoreAnswer.reread, Context.reloaded, ← hkeeps.text]
        cases Context.ofText? r.text <;> rfl
  | table m => exact h.elim

theorem Mirrors.saved (h : Mirrors s t) (hc : c.Proper) (hs : s.save key c expected = .ok s')
    (ht : t.save key c expected = .ok t') : Mirrors s' t' := by
  cases s with
  | table m => exact h.elim
  | memory m =>
    cases t with
    | memory t => exact h.elim
    | table t =>
      simp only [SessionStore.save, SessionMap.save] at hs
      split at hs
      · cases hs
        simp only [SessionStore.save] at ht
        cases hsave : t.save key c expected with
        | error e => simp [hsave, Except.map] at ht
        | ok t₁ =>
          rw [hsave] at ht
          cases ht
          obtain ⟨-, hkeyed, hrows⟩ := SessionTable.save_ok h.1 hsave
          refine ⟨hkeyed, fun k => ?_⟩
          rw [SessionMap.lookup_put, hrows]
          by_cases hk : k = key
          · rw [if_pos hk, if_pos hk]
            exact .inr ⟨c, _, rfl, rfl, SessionRow.keeps_saved hc key⟩
          · rw [if_neg hk, if_neg hk]
            exact h.2 k
      · cases hs

/-- A save goes through in both stores or is refused in both for the same reason. -/
theorem Mirrors.save (h : Mirrors s t) (hc : c.Proper) (key : String) (expected : Option Nat) :
    (∃ s' t', s.save key c expected = .ok s' ∧ t.save key c expected = .ok t' ∧ Mirrors s' t') ∨
      ∃ e, s.save key c expected = .error e ∧ t.save key c expected = .error e := by
  by_cases hversion : s.version? key = expected
  · obtain ⟨s', hs'⟩ := save_of_version hversion c
    obtain ⟨t', ht'⟩ := save_of_version ((h.version? key).trans hversion) c
    exact .inl ⟨s', t', hs', ht', h.saved hc hs' ht'⟩
  · cases hs : s.save key c expected with
    | ok s' => exact absurd (save_ok h.keyed.1 hs).1 hversion
    | error e =>
      cases ht : t.save key c expected with
      | ok t' => exact absurd ((h.version? key).symm.trans (save_ok h.keyed.2 ht).1) hversion
      | error e' =>
        refine .inr ⟨e, rfl, ?_⟩
        rw [(save_error hs).1, (save_error ht).1, h.version? key]

theorem Mirrors.clear (h : Mirrors s t) (key : String) : Mirrors (s.clear key) (t.clear key) := by
  cases s with
  | table m => exact h.elim
  | memory m =>
    cases t with
    | memory t => exact h.elim
    | table t =>
      refine ⟨SessionTable.keyed_clear h.1 key, fun k => ?_⟩
      rw [SessionTable.row?_clear]
      by_cases hk : k = key
      · subst hk
        rw [if_pos rfl, SessionMap.clear]
        rcases h.2 k with ⟨hm, ht⟩ | ⟨c, r, hm, ht, hkeeps⟩
        · exact .inl ⟨by simp [hm], by simp [ht]⟩
        · exact .inr ⟨_, _, by simp [hm, SessionMap.lookup_put], by simp [ht],
            SessionRow.keeps_emptied hkeeps⟩
      · have hsame : (m.clear key).lookup k = m.lookup k := clear_sameBut (.memory m) key k hk
        rw [if_neg hk, hsame]
        exact h.2 k

/-- What a store answers to a call, and what is stored then. -/
def perform (s : SessionStore) : StoreCall → StoreAnswer × SessionStore
  | .load key => (.loaded (s.load key), s)
  | .save key c expected =>
    match s.save key c expected with
    | .ok s' => (.saved (.ok ()), s')
    | .error e => (.saved (.error e), s)
  | .clear key => (.cleared, s.clear key)

def answers (s : SessionStore) : List StoreCall → List StoreAnswer
  | [] => []
  | call :: calls => (s.perform call).1 :: answers (s.perform call).2 calls

theorem Mirrors.perform (h : Mirrors s t) {call : StoreCall} (hcall : call.Proper) :
    (t.perform call).1 = (s.perform call).1.reread ∧
      Mirrors (s.perform call).2 (t.perform call).2 := by
  cases call with
  | load key => exact ⟨h.load key, h⟩
  | save key c expected =>
    simp only [SessionStore.perform]
    rcases h.save hcall key expected with ⟨s', t', hs, ht, hmirrors⟩ | ⟨e, hs, ht⟩
    · rw [hs, ht]
      exact ⟨rfl, hmirrors⟩
    · rw [hs, ht]
      exact ⟨rfl, h⟩
  | clear key => exact ⟨rfl, h.clear key⟩

/-- A table answers any calls as a map does, but that what it loads comes back from its text. -/
theorem Mirrors.answers (h : Mirrors s t) {calls : List StoreCall}
    (hcalls : ∀ call ∈ calls, call.Proper) :
    t.answers calls = (s.answers calls).map StoreAnswer.reread := by
  induction calls generalizing s t with
  | nil => rfl
  | cons call calls ih =>
    obtain ⟨hcall, hcalls⟩ := List.forall_mem_cons.1 hcalls
    obtain ⟨hanswer, hmirrors⟩ := h.perform hcall
    rw [SessionStore.answers, SessionStore.answers, List.map_cons, hanswer, ih hmirrors hcalls]

/-- A map and a table that hold the same, all of which comes back as it was. -/
structure Matches (s t : SessionStore) : Prop where
  mirrors : Mirrors s t
  lasts : ∀ key c, s.load key = .ok (some c) → c.Lasts

theorem Matches.load_eq (h : Matches s t) (key : String) : t.load key = s.load key := by
  have hload := h.mirrors.load key
  cases hs : s.load key with
  | error e =>
    rw [hs] at hload
    exact StoreAnswer.loaded.inj hload
  | ok found =>
    rw [hs] at hload
    cases found with
    | none => exact StoreAnswer.loaded.inj hload
    | some c =>
      have hc := Context.reread_eq_self_iff.2 (h.lasts key c hs)
      rw [StoreAnswer.reread, Context.reloaded, hc] at hload
      exact StoreAnswer.loaded.inj hload

theorem Matches.clear (h : Matches s t) (key : String) : Matches (s.clear key) (t.clear key) where
  mirrors := h.mirrors.clear key
  lasts := by
    intro k c hc
    by_cases hk : k = key
    · subst hk
      rw [load_clear] at hc
      cases hv : s.version? k with
      | none => simp [hv] at hc
      | some v =>
        simp only [hv, Option.map_some, Except.ok.injEq, Option.some.injEq] at hc
        exact Context.lasts_of_vars_eq_nil (hc ▸ rfl)
    · rw [(clear_sameBut s key k hk).load_eq] at hc
      exact h.lasts k c hc

theorem Mirrors.load_saved (h : Mirrors s t) (hs : s.save key c expected = .ok s') :
    s'.load key = .ok (some c) := by
  cases s with
  | table m => exact h.elim
  | memory m =>
    simp only [SessionStore.save, SessionMap.save] at hs
    split at hs
    · cases hs
      simp [SessionStore.load, SessionMap.load, SessionMap.lookup_put]
    · cases hs

theorem Matches.saved (h : Matches s t) (hc : c.Proper) (hlasts : c.Lasts)
    (hs : s.save key c expected = .ok s') (ht : t.save key c expected = .ok t') :
    Matches s' t' where
  mirrors := h.mirrors.saved hc hs ht
  lasts := by
    intro k c' hc'
    by_cases hk : k = key
    · subst hk
      rw [h.mirrors.load_saved hs] at hc'
      cases hc'
      exact hlasts
    · rw [((save_ok h.mirrors.keyed.1 hs).2.2.2 k hk).load_eq] at hc'
      exact h.lasts k c' hc'

/-- A map and a table, in either order, that hold the same, all of which comes back as it was. -/
def Exchangeable (s t : SessionStore) : Prop := Matches s t ∨ Matches t s

theorem Exchangeable.symm (h : Exchangeable s t) : Exchangeable t s := Or.symm h

theorem Exchangeable.load_eq (h : Exchangeable s t) (key : String) : t.load key = s.load key := by
  rcases h with h | h
  · exact h.load_eq key
  · exact (h.load_eq key).symm

theorem Exchangeable.save (h : Exchangeable s t) (hc : c.Proper) (hlasts : c.Lasts) (key : String)
    (expected : Option Nat) :
    (∃ s' t', s.save key c expected = .ok s' ∧ t.save key c expected = .ok t' ∧
        Exchangeable s' t') ∨
      ∃ e, s.save key c expected = .error e ∧ t.save key c expected = .error e := by
  rcases h with h | h
  · rcases h.mirrors.save hc key expected with ⟨s', t', hs, ht, -⟩ | ⟨e, hs, ht⟩
    · exact .inl ⟨s', t', hs, ht, .inl (h.saved hc hlasts hs ht)⟩
    · exact .inr ⟨e, hs, ht⟩
  · rcases h.mirrors.save hc key expected with ⟨t', s', ht, hs, -⟩ | ⟨e, ht, hs⟩
    · exact .inl ⟨s', t', hs, ht, .inr (h.saved hc hlasts ht hs)⟩
    · exact .inr ⟨e, hs, ht⟩

theorem Exchangeable.clear (h : Exchangeable s t) (key : String) :
    Exchangeable (s.clear key) (t.clear key) := by
  rcases h with h | h
  · exact .inl (h.clear key)
  · exact .inr (h.clear key)

section Conversations

variable {H : Type} {q : Query H} {x : q.Answer} {log : Transcript H}

/-- One store can give every answer that the other gives. -/
theorem Exchangeable.serves (h : Exchangeable s t) (hq : q.IsLasting) (hs : s.Serves q x s') :
    ∃ t', t.Serves q x t' ∧ Exchangeable s' t' := by
  -- Statements that break down and questions to others leave both stores as they are.
  cases hs with
  | load key => exact ⟨t, h.load_eq key ▸ .load t key, h⟩
  | @saved _ key next expected hsave =>
    rcases h.save hq.1 hq.2 key expected with ⟨s₁, t₁, hs, ht, h₁⟩ | ⟨e, hs, -⟩
    · rw [hsave] at hs
      cases hs
      exact ⟨t₁, .saved ht, h₁⟩
    · rw [hsave] at hs
      cases hs
  | @refused key next expected e hsave =>
    rcases h.save hq.1 hq.2 key expected with ⟨s₁, t₁, hs, -, -⟩ | ⟨e', hs, ht⟩
    · rw [hsave] at hs
      cases hs
    · rw [hsave] at hs
      cases hs
      exact ⟨t, .refused ht, h⟩
  | cleared key => exact ⟨t.clear key, .cleared t key, h.clear key⟩
  | loadBroke key he => exact ⟨t, .loadBroke t key he, h⟩
  | saveBroke key next expected he => exact ⟨t, .saveBroke t key next expected he, h⟩
  | clearBroke key he => exact ⟨t, .clearBroke t key he, h⟩
  | called call x => exact ⟨t, .called t call x, h⟩
  | timed now => exact ⟨t, .timed t now, h⟩
  | noted n => exact ⟨t, .noted t n, h⟩

theorem Exchangeable.servesAll (h : Exchangeable s t) (hlog : ∀ e ∈ log, e.question.IsLasting)
    (hs : s.ServesAll log s') : ∃ t', t.ServesAll log t' ∧ Exchangeable s' t' := by
  induction hs generalizing t with
  | nil s => exact ⟨t, .nil t, h⟩
  | cons hserves hrest ih =>
    obtain ⟨hq, hlog⟩ := List.forall_mem_cons.1 hlog
    obtain ⟨t₁, ht₁, h₁⟩ := h.serves hq hserves
    obtain ⟨t₂, ht₂, h₂⟩ := ih h₁ hlog
    exact ⟨t₂, .cons ht₁ ht₂, h₂⟩

/-- Whatever was performed on one store can be performed on the other, word for word. -/
theorem Exchangeable.oneByOne (h : Exchangeable s t) {ps : List (Performance H)}
    (hps : ∀ p ∈ ps, ∀ e ∈ p.log, e.question.IsLasting) (hs : OneByOne s ps s') :
    ∃ t', OneByOne t ps t' ∧ Exchangeable s' t' := by
  induction hs generalizing t with
  | nil s => exact ⟨t, .nil t, h⟩
  | cons hcourse hserved hrest ih =>
    obtain ⟨hlog, hps⟩ := List.forall_mem_cons.1 hps
    obtain ⟨t₁, ht₁, h₁⟩ := h.servesAll hlog hserved
    obtain ⟨t₂, ht₂, h₂⟩ := ih h₁ hps
    exact ⟨t₂, .cons hcourse ht₁ ht₂, h₂⟩

theorem exchangeable_nil : Exchangeable (.memory []) (.table []) := by
  refine .inl ⟨mirrors_nil, ?_⟩
  rintro key c ⟨⟩

/-- The stores can take each other's place as far as contexts come back from their texts.

To calls one after the other, with contexts that programs make, an empty table answers as an empty
map does: it finds the same sessions, saves the same contexts and refuses the others for the same
conflicts. Where the map loads a context, the table loads it as it comes back: with every number as
its own text is read, and not at all if its variables nest too deep. So the answers are all the same
exactly when every context that is loaded comes back as it was. And if every context that is saved
does, then turns and cancels have the same courses and the same replies on both. -/
theorem answers_table {calls : List StoreCall} (hcalls : ∀ call ∈ calls, call.Proper) :
    answers (.table []) calls = (answers (.memory []) calls).map StoreAnswer.reread ∧
      (answers (.table []) calls = answers (.memory []) calls ↔
        ∀ c, .loaded (.ok (some c)) ∈ answers (.memory []) calls → c.Lasts) ∧
      ∀ ps : List (Performance H), (∀ p ∈ ps, ∀ e ∈ p.log, e.question.IsLasting) →
        ((∃ s, OneByOne (.table []) ps s) ↔ ∃ s, OneByOne (.memory []) ps s) := by
  have hanswers := mirrors_nil.answers hcalls
  refine ⟨hanswers, ?_, fun ps hps => ⟨?_, ?_⟩⟩
  · rw [hanswers]
    exact StoreAnswer.map_reread_eq_iff
  · rintro ⟨t, ht⟩
    obtain ⟨s, hs, -⟩ := exchangeable_nil.symm.oneByOne hps ht
    exact ⟨s, hs⟩
  · rintro ⟨s, hs⟩
    obtain ⟨t, ht, -⟩ := exchangeable_nil.oneByOne hps hs
    exact ⟨t, ht⟩

end Conversations

/-- A context with the reading 9.799999999999999, the number next to 9.8. -/
def metered : Context where
  vars := [("reading", .number (.double ⟨false, 4621706527598287257, by decide⟩))]

def rounded : Context where
  vars := [("reading", .number (.double ⟨false, 4621706527598287258, by decide⟩))]

def freshStart : Performance Unit where
  op := .turn World.greeter ⟨"user", none⟩ (.start "greeting")
  log := [⟨.load "user", .ok none⟩, ⟨.now, ⟨0, 0⟩⟩,
    ⟨.note (.turn "greeting" "awaiting_input"), ()⟩, ⟨.save "user" World.greeted none, .ok ()⟩]
  result := .ok (.step (.awaitingInput (World.greeting.prompt World.greeting.steps[0]
    { World.greeted with version := 0 } none) []))

/-- The reading that the table loads is not the one that was saved. -/
theorem answers_table_metered :
    (∀ call ∈ [.save "user" metered none, .load "user"], StoreCall.Proper call) ∧
      answers (.memory []) [.save "user" metered none, .load "user"] =
        [.saved (.ok ()), .loaded (.ok (some metered))] ∧
      answers (.table []) [.save "user" metered none, .load "user"] =
        [.saved (.ok ()), .loaded (.ok (some rounded))] ∧
      ¬ metered.Lasts ∧ ∃ s, OneByOne (.table []) [freshStart] s := by
  have hproper : metered.Proper := {
    vars := ⟨List.pairwise_singleton _ _, trivial, trivial⟩
    startedAt := by rintro t ⟨⟩
    version := by decide }
  have hcalls : ∀ call ∈ [.save "user" metered none, .load "user"], StoreCall.Proper call := by
    intro call hcall
    rcases List.mem_pair.1 hcall with rfl | rfl
    · exact hproper
    · trivial
  have hmap : answers (.memory []) [.save "user" metered none, .load "user"] =
      [.saved (.ok ()), .loaded (.ok (some metered))] := rfl
  have hread : metered.reread = some rounded := by decide +kernel
  have hne : rounded ≠ metered := by decide
  have hgreeted : World.greeted.Proper := {
    vars := ⟨List.Pairwise.nil, trivial⟩
    startedAt := by
      rintro t ⟨⟩
      exact ⟨by decide, by decide, by decide, by decide⟩
    version := by decide }
  have hstarts : ∀ p ∈ [freshStart], ∀ e ∈ p.log, e.question.IsLasting := by
    intro p hp e he
    obtain rfl := List.mem_singleton.1 hp
    simp only [freshStart, List.mem_cons, List.not_mem_nil, or_false] at he
    rcases he with rfl | rfl | rfl | rfl
    · trivial
    · trivial
    · trivial
    · exact ⟨hgreeted, Context.lasts_of_vars_eq_nil rfl⟩
  have hmade : OneByOne (.memory []) [freshStart] (.memory [("user", World.greeted)]) :=
    .cons (.cons _ <| .cons _ <| .cons _ <| .cons _ <| .nil _)
      (.cons (.load _ _) <| .cons (.timed _ _) <| .cons (.noted _ _) <| .cons (.saved rfl) <|
        .nil _) (.nil _)
  obtain ⟨htable, hsame, hone⟩ := answers_table (H := Unit) hcalls
  have hrounded : answers (.table []) [.save "user" metered none, .load "user"] =
      [.saved (.ok ()), .loaded (.ok (some rounded))] := by
    rw [htable, hmap]
    simp only [List.map_cons, List.map_nil, StoreAnswer.reread, Context.reloaded, hread]
  refine ⟨hcalls, hmap, hrounded, fun hlasts => hne ?_, (hone _ hstarts).2 ⟨_, hmade⟩⟩
  rw [Context.reread_eq_self_iff.2 hlasts, Option.some.injEq] at hread
  exact hread.symm

end SessionStore

end Dialogue
