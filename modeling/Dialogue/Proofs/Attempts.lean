import Dialogue.Proofs.Answers
import Dialogue.Proofs.Ceiling
import Dialogue.Proofs.Delivery

namespace Dialogue

open Interaction

variable {H : Type}

theorem Context.moveTo_retryCount {c : Context} (hc : c.retryCount = 0) (stepId : String) :
    (c.moveTo stepId).retryCount = 0 := by
  simp only [moveTo, hc, ite_self]

namespace Engine

def asks (e : Engine H) (c : Context) : Bool :=
  match e.locate c with
  | .ok (_, s) => s.isInteractive
  | .error _ => false

variable {e : Engine H} {w : Workflow} {input : String} {session : SessionRef}

theorem asks_of_locate {s : Step} {c : Context} (h : e.locate c = .ok (w, s)) :
    e.asks c = s.isInteractive := by
  simp only [asks, h]

section Walks

variable {s : Step} {c k : Context} {action : Option String} {events : List (Event H)}
  {st st' : Stage}

/-- Whether no attempt is counted at a stage, unless it is at a step that asks for an input. -/
def Stage.Uncounted : Stage → Prop
  | .resuming s c => s.isInteractive = false → c.retryCount = 0
  | .arrived _ c => c.retryCount = 0
  | .heading c _ => c.retryCount = 0
  | .ended (.waiting _ c) => c.retryCount = 0
  | .ended (.refused _ _ _) => True
  | .ended (.failed _ _) => True
  | .ended (.completed _) => True
  | .ended (.broken _) => True

theorem Acts.uncounted (h : Acts e w input session s c action events st)
    (hc : c.retryCount = 0) : st.Uncounted := by
  obtain ⟨vars, d, rfl⟩ | ⟨failure, rfl⟩ | ⟨err, rfl, -⟩ := h.leads
  · exact hc
  · trivial
  · trivial

theorem awaiting_retryCount (e : Engine H) (s : Step) (c : Context) :
    (e.awaiting s c).retryCount = c.retryCount := by
  unfold awaiting
  split
  · rfl
  · rfl

/-- Once an input is accepted, a turn counts no attempts. -/
theorem Move.uncounted (h : Move e w input session st events st') (hst : st.Uncounted) :
    st'.Uncounted := by
  cases h with
  | kindless hkind => trivial
  | refused hkind hinteractive hcheck => trivial
  | accepted hkind hinteractive hcheck hacts => exact hacts.uncounted rfl
  | resumed hkind hinteractive hacts =>
    apply hacts.uncounted
    apply hst
    rw [Workflow.isInteractive_of_kindOf hkind, hinteractive]
  | missing hstep => trivial
  | entered hstep => exact Context.moveTo_retryCount hst _
  | waits hauto => exact (awaiting_retryCount e _ _).trans hst
  | stumbles hauto hkind => trivial
  | runs hauto hkind hacts => exact hacts.uncounted hst
  | completed hhook => trivial
  | unhooked hhook h => trivial
  | closed hhook h x =>
    cases x with
    | error failure => trivial
    | ok report =>
      by_cases hsuccess : report.success = true
      · simp [hooked, hsuccess, Stage.Uncounted]
      · simp [hooked, hsuccess, Stage.Uncounted]

theorem Walk.uncounted (h : Walk e w input session st events st') (hst : st.Uncounted) :
    st'.Uncounted := by
  induction h with
  | nil st => exact hst
  | cons hmove hwalk ih => exact ih (hmove.uncounted hst)

theorem Walk.held_retryCount (h : Walk e w input session st events st') (hst : st.Uncounted)
    (hentrances : entrances events ≠ []) : (held k events).retryCount = 0 := by
  obtain ⟨before, s, c, since, hevents, hsince⟩ := exists_last_entered hentrances
  obtain ⟨st₁, st₂, hbefore, hmove, -⟩ := h.split hevents
  obtain ⟨c₀, id, rfl, -, rfl, -⟩ := hmove.of_entered
  rw [hevents, held_append, held_entered, held_of_entrances _ hsince]
  exact Context.moveTo_retryCount (hbefore.uncounted hst) _

theorem Walk.entrances_ne_nil {id stepId : String} {failure : CallFailure}
    (h : Walk e w input session (.heading c (.step id)) events (.ended (.failed stepId failure))) :
    entrances events ≠ [] := by
  cases h with
  | cons hmove hwalk =>
    cases hmove with
    | missing hstep => cases hwalk.of_ended
    | entered hstep => simp

end Walks

section Turns

variable {c c' : Context} {st : Stage} {turn : Turn H} {log : CallLog H} {r : StepResult}

/-- What a turn on the context `c` leaves of the attempts counted there. -/
def Counts (e : Engine H) (st : Stage) (c c' : Context) : StepResult → Prop
  | .awaitingInput _ _ => c'.retryCount = 0
  | .validationError _ _ attempt => ∃ s, st = .resuming s c ∧ s.isInteractive = true ∧
      attempt = c.retryCount + 1 ∧ c' = { c with retryCount := attempt }
  | .serviceError _ _ => (∃ s, st = .resuming s c ∧ c' = c) ∨
      e.asks c' = false ∧ c'.retryCount = 0
  | .completed _ _ _ => e.asks c' = false ∧ c'.retryCount = 0

theorem Opens.get?_eq (h : Opens e w session input c st turn) :
    e.registry.get? w.id = some w := by
  cases h with
  | start now hget => rwa [Registry.get?_id hget]
  | input input hlocate => exact (locate_eq_ok_iff.1 hlocate).1

theorem Opens.isAt (h : Opens e w session input c st turn) :
    ∃ id, st.IsAt (some w.id) id ∧ c.IsAt (some w.id) id := by
  cases h with
  | start now hget => exact ⟨w.startStepId, ⟨rfl, rfl⟩, rfl, rfl⟩
  | @input c s input hlocate =>
    obtain ⟨-, hworkflow, -, hcurrent⟩ := locate_eq_ok_iff.1 hlocate
    exact ⟨s.id, ⟨rfl, hworkflow, hcurrent⟩, hworkflow, hcurrent⟩

/-- A turn begins on the step of its context, or on the way to a first one. -/
theorem Opens.stage_cases (h : Opens e w session input c st turn) :
    (∃ s, st = .resuming s c) ∨ ∃ id, st = .heading c (.step id) := by
  cases h with
  | start now hget => exact .inr ⟨_, rfl⟩
  | input input hlocate => exact .inl ⟨_, rfl⟩

/-- A turn whose call failed leaves the context it began on, or one at a step that asks for
nothing. -/
theorem Opens.counts_failed {events : List (Event H)} {stepId : String} {failure : CallFailure}
    (h : Opens e w session input c st turn) (hst : st.Uncounted)
    (hwalk : Walk e w input session st events (.ended (.failed stepId failure))) :
    (∃ s, st = .resuming s c ∧ held c events = c) ∨
      e.asks (held c events) = false ∧ (held c events).retryCount = 0 := by
  by_cases hentrances : entrances events = []
  · left
    obtain ⟨s, rfl⟩ | ⟨id, rfl⟩ := h.stage_cases
    · exact ⟨s, rfl, held_of_entrances c hentrances⟩
    · exact absurd hentrances hwalk.entrances_ne_nil
  · right
    obtain ⟨id, hat, hcat⟩ := h.isAt
    obtain ⟨id', hid, hworkflow, hcurrent⟩ := hwalk.isAt hat hcat
    obtain rfl : stepId = id' := hid
    obtain ⟨s, hs, hauto⟩ := hwalk.failed_at_entered hentrances
    have hself := Workflow.step?_self hs
    have hlocate : e.locate (held c events) = .ok (w, s) := by
      rw [locate_eq_ok_iff, Workflow.step?_id hs]
      rw [Workflow.step?_id hs] at hself
      exact ⟨h.get?_eq, hworkflow, hself, hcurrent⟩
    rw [asks_of_locate hlocate]
    exact ⟨Step.isInteractive_of_isAutomatic hauto, hwalk.held_retryCount hst hentrances⟩

theorem Opens.counts (h : Opens e w session input c st turn)
    (hdone : After turn log (.done (.ok (c', r)))) (hst : st.Uncounted) : Counts e st c c' r := by
  obtain ⟨events, f, hwalk, -, -, hresult⟩ := (after_rest_iff.1 (h.eq_rest ▸ hdone)).of_ok
  cases f with
  | waiting s c₁ =>
    cases hresult
    exact hwalk.uncounted hst
  | refused reason s c₁ =>
    cases hresult
    obtain ⟨-, hinteractive, c₀, rfl, hc₁⟩ := hwalk.of_refused h.ne_ended
    obtain ⟨s', hs'⟩ | ⟨id, hid⟩ := h.stage_cases
    · cases hs'
      rw [Counts, hc₁]
      exact ⟨s, rfl, hinteractive, rfl, rfl⟩
    · cases hid
  | failed stepId failure =>
    cases hresult
    exact h.counts_failed hst hwalk
  | completed c₁ =>
    cases hresult
    exact ⟨rfl, rfl⟩
  | broken err => cases hresult

/-- Going back moves with the counter set back, or nothing changes for it. -/
theorem goBack_counts {navigation : Navigation} (h : e.goBack c = .ok (c', navigation)) :
    (∃ prompt, navigation = .moved prompt) ∧ c'.retryCount = 0 ∨
      navigation = .notAllowed ∧ e.asks c' = e.asks c ∧ c'.retryCount = c.retryCount := by
  simp only [goBack, Bind.bind, Except.bind] at h
  cases hlocate : e.locate c with
  | error err => simp [hlocate] at h
  | ok there =>
    simp only [hlocate] at h
    split at h
    · cases h
      exact .inr ⟨rfl, rfl, rfl⟩
    · split at h
      · cases h
        exact .inr ⟨rfl, rfl, rfl⟩
      · rename_i id hlast
        cases hstep : there.1.step? id with
        | none => simp [hstep] at h
        | some target =>
          simp only [hstep] at h
          cases h
          exact .inl ⟨⟨_, rfl⟩, rfl⟩

end Turns

inductive Said where
  | result (r : StepResult)
  | navigation (n : Navigation)

namespace Said

def presents : Said → Bool
  | .result (.awaitingInput _ _) => true
  | .result (.validationError _ _ _) => false
  | .result (.serviceError _ _) => false
  | .result (.completed _ _ _) => false
  | .navigation (.moved _) => true
  | .navigation .notAllowed => false

def refuses : Said → Bool
  | .result (.validationError _ _ _) => true
  | .result (.awaitingInput _ _) => false
  | .result (.serviceError _ _) => false
  | .result (.completed _ _ _) => false
  | .navigation _ => false

end Said

/-- A call with the context it is given, what is said to it and the context it leaves. -/
structure Round where
  given : Context
  said : Said
  left : Context

/-- The rounds there may be: starts, inputs and ways back. -/
inductive Takes (e : Engine H) : Round → Prop
  | start {c c' : Context} {id : String} {now : Instant} {session : SessionRef}
      {log : CallLog H} {r : StepResult}
      (h : After (e.start id now session) log (.done (.ok (c', r)))) :
      Takes e ⟨c, .result r, c'⟩
  | input {c c' : Context} {input : String} {session : SessionRef} {log : CallLog H}
      {r : StepResult} (h : After (e.processInput c input session) log (.done (.ok (c', r)))) :
      Takes e ⟨c, .result r, c'⟩
  | back {c c' : Context} {navigation : Navigation} (h : e.goBack c = .ok (c', navigation)) :
      Takes e ⟨c, .navigation navigation, c'⟩

/-- Runs of rounds, each on the context left before, with the context that is left at last. Between
rounds a conversation may be cancelled, and the version is the store's affair. -/
inductive Rounds (e : Engine H) : List Round → Context → Prop
  | idle : Rounds e [] {}
  | round {rounds : List Round} {round : Round} (hrun : Rounds e rounds round.given)
      (h : e.Takes round) : Rounds e (rounds ++ [round]) round.left
  | cancelled {rounds : List Round} {c : Context} (hrun : Rounds e rounds c) :
      Rounds e rounds (cancel c)
  | stamped {rounds : List Round} {c : Context} (hrun : Rounds e rounds c) (version : Nat) :
      Rounds e rounds { c with version }

/-- Whether `n` inputs were refused since a step was presented last. -/
def RefusedSince (rounds : List Round) (n : Nat) : Prop :=
  ∃ earlier shown since, rounds = earlier ++ shown :: since ∧ shown.said.presents = true ∧
    (∀ round ∈ since, round.said.presents = false) ∧ since.countP (·.said.refuses) = n

section Runs

variable {rounds before after : List Round} {round : Round} {c : Context} {n : Nat}

theorem exists_rounds_iff : (∃ rounds, e.Rounds rounds c) ↔ e.Reached c := by
  -- The two inductions have the same cases; rounds only note in addition what was said.
  constructor
  · rintro ⟨rounds, h⟩
    induction h with
    | idle => exact .idle
    | round hrun h ih =>
      cases h with
      | @start c c' id now session log r h =>
        obtain ⟨w, hget⟩ := exists_get? h
        exact .started hget h
      | input h => exact .answered ih h
      | back h => exact .wentBack ih h
    | cancelled hrun ih => exact .cancelled ih
    | stamped hrun version ih => exact .stamped ih version
  · intro h
    induction h with
    | idle => exact ⟨[], .idle⟩
    | @started id w now session log c r hget h =>
      have hround : e.Takes ⟨{}, .result r, c⟩ := .start h
      exact ⟨_, .round .idle hround⟩
    | @answered c c' input session log r hc h ih =>
      obtain ⟨rounds, hrun⟩ := ih
      have hround : e.Takes ⟨c, .result r, c'⟩ := .input h
      exact ⟨_, hrun.round hround⟩
    | @wentBack c c' navigation hc h ih =>
      obtain ⟨rounds, hrun⟩ := ih
      have hround : e.Takes ⟨c, .navigation navigation, c'⟩ := .back h
      exact ⟨_, hrun.round hround⟩
    | cancelled hc ih =>
      obtain ⟨rounds, hrun⟩ := ih
      exact ⟨rounds, hrun.cancelled⟩
    | stamped hc version ih =>
      obtain ⟨rounds, hrun⟩ := ih
      exact ⟨rounds, hrun.stamped version⟩

theorem RefusedSince.of_presents (h : round.said.presents = true) :
    RefusedSince (rounds ++ [round]) 0 :=
  ⟨rounds, round, [], rfl, h, by simp, rfl⟩

/-- A round that presents no step counts with the ones since the last that did. -/
theorem RefusedSince.append (h : RefusedSince rounds n) (hround : round.said.presents = false) :
    RefusedSince (rounds ++ [round]) (n + if round.said.refuses then 1 else 0) := by
  obtain ⟨earlier, shown, since, rfl, hshown, hsince, rfl⟩ := h
  refine ⟨earlier, shown, since ++ [round], by simp, hshown, ?_, ?_⟩
  · intro other hother
    obtain hother | rfl := List.mem_append.1 hother |>.imp_right List.mem_singleton.1
    · exact hsince other hother
    · exact hround
  · rw [List.countP_append, List.countP_singleton]

/-- The attempts counted in a context are those since a step was presented last. -/
structure Tallied (e : Engine H) (rounds : List Round) (c : Context) : Prop where
  refused : e.asks c = true → ∃ n, RefusedSince rounds n ∧ c.retryCount = .ofNat n
  unasked : e.asks c = false → c.retryCount = 0

theorem Tallied.of_presents (h : round.said.presents = true) (hc : c.retryCount = 0) :
    Tallied e (rounds ++ [round]) c :=
  ⟨fun _ => ⟨0, .of_presents h, hc⟩, fun _ => hc⟩

theorem Tallied.of_unasked (h : e.asks c = false) (hc : c.retryCount = 0) :
    Tallied e rounds c :=
  ⟨fun hasks => absurd (h.symm.trans hasks) (by decide), fun _ => hc⟩

/-- A context with the same step and the same counter is counted for in the same way after a round
that neither presents a step nor refuses an input. -/
theorem Tallied.append {c' : Context} (h : Tallied e rounds c)
    (hpresents : round.said.presents = false) (hrefuses : round.said.refuses = false)
    (hasks : e.asks c' = e.asks c) (hc : c'.retryCount = c.retryCount) :
    Tallied e (rounds ++ [round]) c' := by
  constructor
  · intro hasked
    obtain ⟨n, hsince, hn⟩ := h.refused (hasks ▸ hasked)
    have happend := hsince.append hpresents
    rw [hrefuses] at happend
    exact ⟨n, happend, hc.trans hn⟩
  · intro hasked
    rw [hc]
    exact h.unasked (hasks ▸ hasked)

/-- A turn keeps the count if it begins with the right one, or on the way to a first step. -/
theorem Tallied.of_counts {st : Stage} {c' : Context} {r : StepResult}
    (hcounts : Counts e st c c' r) (hround : round.said = .result r)
    (hst : ∀ s, st = .resuming s c → Tallied e rounds c ∧ e.asks c = s.isInteractive) :
    Tallied e (rounds ++ [round]) c' := by
  cases r with
  | awaitingInput prompt notices => exact .of_presents (by rw [hround]; rfl) hcounts
  | validationError reason prompt attempt =>
    obtain ⟨s, hs, hinteractive, rfl, rfl⟩ := hcounts
    obtain ⟨htallied, hasks⟩ := hst s hs
    have hasked := hasks.trans hinteractive
    constructor
    · intro _
      have hpresents : round.said.presents = false := by rw [hround]; rfl
      obtain ⟨n, hsince, hn⟩ := htallied.refused hasked
      have happend := hsince.append hpresents
      rw [hround] at happend
      exact ⟨n + 1, happend, by rw [hn, UInt32.ofNat_add]; rfl⟩
    · intro hunasked
      cases hasked.symm.trans hunasked
  | serviceError stepId failure =>
    rcases hcounts with ⟨s, hs, rfl⟩ | ⟨hunasked, hzero⟩
    · exact (hst s hs).1.append (by rw [hround]; rfl) (by rw [hround]; rfl) rfl rfl
    · exact .of_unasked hunasked hzero
  | completed finalData notices message => exact .of_unasked hcounts.1 hcounts.2

theorem Tallied.counts {w : Workflow} {s : Step} {c' : Context} {input : String}
    {session : SessionRef} {log : CallLog H} {r : StepResult} (h : Tallied e rounds c)
    (hlocate : e.locate c = .ok (w, s))
    (hdone : After (e.processInput c input session) log (.done (.ok (c', r)))) :
    Counts e (.resuming s c) c c' r := by
  apply (Opens.input input hlocate).counts hdone
  intro hs
  exact h.unasked ((asks_of_locate hlocate).trans hs)

theorem Takes.tallied (h : e.Takes round) (hgiven : Tallied e rounds round.given) :
    Tallied e (rounds ++ [round]) round.left := by
  cases h with
  | start h =>
    obtain ⟨w, hget⟩ := exists_get? h
    exact .of_counts ((Opens.start _ hget).counts h rfl) rfl fun s hs => nomatch hs
  | input h =>
    obtain ⟨w, s, hlocate⟩ := exists_locate h
    apply Tallied.of_counts (hgiven.counts hlocate h) rfl
    intro s' hs'
    cases hs'
    exact ⟨hgiven, asks_of_locate hlocate⟩
  | back h =>
    obtain ⟨⟨prompt, rfl⟩, hzero⟩ | ⟨rfl, hasks, hkept⟩ := goBack_counts h
    · exact .of_presents rfl hzero
    · exact hgiven.append rfl rfl hasks hkept

theorem Rounds.tallied (h : e.Rounds rounds c) : Tallied e rounds c := by
  induction h with
  | idle => exact .of_unasked rfl rfl
  | round hrun h ih => exact h.tallied ih
  | cancelled hrun ih => exact .of_unasked rfl rfl
  | stamped hrun version ih => exact ⟨ih.refused, ih.unasked⟩

/-- A round that refuses an input counts it in the context it was given, and does nothing else. -/
theorem Takes.of_refused {given left : Context} {reason : Reason} {prompt : Prompt}
    {attempt : UInt32}
    (h : e.Takes ⟨given, .result (.validationError reason prompt attempt), left⟩)
    (hgiven : Tallied e rounds given) : e.asks given = true ∧ attempt = given.retryCount + 1 ∧
      left = { given with retryCount := attempt } := by
  cases h with
  | start h =>
    obtain ⟨w, hget⟩ := exists_get? h
    obtain ⟨s, hs, -⟩ := (Opens.start _ hget).counts h rfl
    cases hs
  | input h =>
    obtain ⟨w, s, hlocate⟩ := exists_locate h
    obtain ⟨s', hs', hinteractive, hattempt, hleft⟩ := hgiven.counts hlocate h
    cases hs'
    exact ⟨(asks_of_locate hlocate).trans hinteractive, hattempt, hleft⟩

theorem Rounds.split (h : e.Rounds rounds c) (hrounds : rounds = before ++ round :: after) :
    e.Rounds before round.given ∧ e.Takes round := by
  induction h generalizing after with
  | idle => simp at hrounds
  | @round rounds last hrun h ih =>
    obtain rfl | ⟨after, last', rfl⟩ := List.eq_nil_or_concat after
    · obtain ⟨rfl, hlast⟩ := List.append_inj' hrounds rfl
      cases hlast
      exact ⟨hrun, h⟩
    · rw [List.concat_eq_append, ← List.cons_append, ← List.append_assoc] at hrounds
      exact ih (List.append_inj' hrounds rfl).1
  | cancelled hrun ih => exact ih hrounds
  | stamped hrun version ih => exact ih hrounds

/-- Attempts are counted per presentation of a step: each refused input is told as one attempt more
than were refused since a step was presented last, in 32 bits, and nothing else changes with it. -/
theorem Rounds.attempts_counted {given left : Context} {reason : Reason} {prompt : Prompt}
    {attempt : UInt32} (h : e.Rounds rounds c) (hrounds : rounds =
      before ++ ⟨given, .result (.validationError reason prompt attempt), left⟩ :: after) :
    ∃ n, RefusedSince before n ∧ attempt = .ofNat (n + 1) ∧
      (n + 1 < UInt32.size → attempt.toNat = n + 1) ∧ given.retryCount = .ofNat n ∧
      left = { given with retryCount := attempt } := by
  obtain ⟨hrun, htakes⟩ := h.split hrounds
  have htallied := hrun.tallied
  obtain ⟨hasked, hattempt, hleft⟩ := htakes.of_refused htallied
  obtain ⟨n, hsince, hn⟩ := htallied.refused hasked
  have hnext : attempt = .ofNat (n + 1) := by
    rw [hattempt, hn, UInt32.ofNat_add]
    rfl
  refine ⟨n, hsince, hnext, fun hbound => ?_, hn, hleft⟩
  rw [hnext]
  exact UInt32.toNat_ofNat_of_lt hbound

end Runs

def tollgate : Workflow where
  id := "tollgate"
  startStepId := "sum"
  steps := [{ id := "sum", kind := some .input, action := some "charge",
              validation := some { kind := .number } }]

def collector : Engine Unit where
  registry := ⟨[tollgate]⟩
  actions := { shared := [("charge", ())] }

def atGate (refused : UInt32) : Context where
  workflowId := some "tollgate"
  currentStepId := some "sum"
  history := ["sum"]
  startedAt := some ⟨0, 0⟩
  retryCount := refused

def noSum (attempt : UInt32) : StepResult :=
  .validationError .invalidFormat (tollgate.prompt tollgate.steps[0] (atGate attempt)
    (some .invalidFormat)) attempt

/-- The end of a turn whose calls get no answer in time. -/
def unanswered (turn : Turn Unit) : Except Error (Context × StepResult) :=
  (turn.run (fun (x : Unit) _ => (.error .timeout, x)) ()).1

theorem exists_after_unanswered {turn : Turn Unit} {result : Except Error (Context × StepResult)}
    (h : unanswered turn = result) : ∃ log, After turn log (.done result) := by
  obtain ⟨log, hafter⟩ := exists_after_run (fun (x : Unit) _ => (.error .timeout, x)) () turn
  rw [← h]
  exact ⟨log, hafter⟩

/-- An answer that is refused, a charge that fails and a way back that is not there: the next answer
that is refused is the second. -/
theorem attempts_counted_tollgate :
    ∃ before : List Round, before.map (·.said) =
        [.result (.awaitingInput (tollgate.prompt tollgate.steps[0] (atGate 0) none) []),
          .result (noSum 1), .result (.serviceError "sum" .timeout), .navigation .notAllowed] ∧
      collector.Rounds (before ++ [⟨atGate 1, .result (noSum 2), atGate 2⟩]) (atGate 2) ∧
      ∃ n, RefusedSince before n ∧ 2 = UInt32.ofNat (n + 1) ∧
        (n + 1 < UInt32.size → UInt32.toNat 2 = n + 1) ∧ (atGate 1).retryCount = .ofNat n ∧
        atGate 2 = { atGate 1 with retryCount := 2 } := by
  have hstart : unanswered (collector.start "tollgate" ⟨0, 0⟩ ⟨"user", none⟩) =
      .ok (atGate 0, .awaitingInput (tollgate.prompt tollgate.steps[0] (atGate 0) none) []) := by
    decide +kernel
  have hfirst : unanswered (collector.processInput (atGate 0) "many" ⟨"user", none⟩) =
      .ok (atGate 1, noSum 1) := by decide +kernel
  have hcharge : unanswered (collector.processInput (atGate 1) "5" ⟨"user", none⟩) =
      .ok (atGate 1, .serviceError "sum" .timeout) := by decide +kernel
  have hback : collector.goBack (atGate 1) = .ok (atGate 1, .notAllowed) := rfl
  have hsecond : unanswered (collector.processInput (atGate 1) "few" ⟨"user", none⟩) =
      .ok (atGate 2, noSum 2) := by decide +kernel
  obtain ⟨_, hstart⟩ := exists_after_unanswered hstart
  obtain ⟨_, hfirst⟩ := exists_after_unanswered hfirst
  obtain ⟨_, hcharge⟩ := exists_after_unanswered hcharge
  obtain ⟨_, hsecond⟩ := exists_after_unanswered hsecond
  have hrun := ((((Rounds.idle.round (.start hstart)).round (.input hfirst)).round
    (.input hcharge)).round (.back hback)).round (.input hsecond)
  exact ⟨_, rfl, hrun, hrun.attempts_counted rfl⟩

end Engine

end Dialogue
