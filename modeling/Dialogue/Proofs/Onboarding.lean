import Dialogue.Console
import Dialogue.Proofs.LatestFailure

namespace Dialogue

open Interaction

variable {H : Type}

namespace TaxpayerAction

/-- Whether a call of an action may give a result, whatever the tax registry answers and however
long that takes. -/
def Gives (a : TaxpayerAction) (r : Request) (x : CallResult) : Prop :=
  ∃ (limit : Option Nat) (elapsed : Nat) (how : Ending), x = how.settle limit elapsed ∧
    ((∃ log outcome, After (a.run r) log (.done outcome) ∧ how = ending outcome) ∨
      ∃ message, how = .panicked message)

/-- A service that asks the tax registry gives no other results. -/
theorem gives_call (s : TaxpayerService) (around : Surroundings) (c : Call TaxpayerAction) :
    c.handler.Gives c.request (s.call around c) := by
  obtain ⟨log, hrun⟩ := exists_after_run (fun (u : Unit) q => (s.answer around q, u)) ()
    (c.handler.run c.request)
  exact ⟨none, 0, _, rfl, .inl ⟨log, _, hrun, rfl⟩⟩

variable {r : Request} {report : Report}

theorem exists_run_of_gives {a : TaxpayerAction} (h : a.Gives r (.ok report)) :
    ∃ log, After (a.run r) log (.done (.ok report)) := by
  obtain ⟨limit, elapsed, how, hx, hhow⟩ := h
  simp only [Ending.settle] at hx
  split at hx
  · cases hx
  · obtain ⟨log, outcome, hrun, rfl⟩ | ⟨message, rfl⟩ := hhow
    · cases outcome with
      | error message => cases hx
      | ok made =>
        cases hx
        exact ⟨log, hrun⟩
    · cases hx

theorem report_of_map {α : Type} {make : α → Report} {answer : Except String α}
    {log : List (Entry Inquiry.Answer)}
    (h : After (.done (answer.map make) : Inquiring Outcome) log (.done (.ok report))) :
    ∃ x, report = make x := by
  cases answer with
  | error message => cases (after_done_iff.1 h).2
  | ok x =>
    cases (after_done_iff.1 h).2
    exact ⟨x, rfl⟩

theorem report_of_search {routes : SearchRoutes} (h : (search routes).Gives r (.ok report)) :
    ∃ found, report = searchReport routes found := by
  obtain ⟨log, hrun⟩ := exists_run_of_gives h
  simp only [run] at hrun
  split at hrun
  · cases (after_done_iff.1 hrun).2
  · obtain ⟨answer, rest, -, hdone⟩ := after_ask_done_iff.1 hrun
    exact report_of_map hdone

theorem report_of_verify (h : verify.Gives r (.ok report)) : ∃ v, report = verifyReport v := by
  obtain ⟨log, hrun⟩ := exists_run_of_gives h
  simp only [run] at hrun
  split at hrun
  · cases (after_done_iff.1 hrun).2
  · obtain ⟨answer, rest, -, hdone⟩ := after_ask_done_iff.1 hrun
    exact report_of_map hdone

end TaxpayerAction

namespace Onboarding

def beyond : List String :=
  ["verification_unavailable", "collect_email", "collect_phone", endTarget]

/-- The ways on from a verdict: only a positive one leads beyond the gate. -/
def gate : Transition :=
  .branches [⟨some "verification.verified == true", "collect_email"⟩, ⟨none, "verification_failed"⟩]

/-- What the latest verification among calls gave. -/
def lastVerification (log : CallLog TaxpayerAction) : Option CallResult :=
  (log.reverse.find? fun entry => entry.question.handler = .verify).map (·.answer)

/-- Whether the latest verification failed, or its verdict was positive and is what the variables
say. -/
def Cleared (log : CallLog TaxpayerAction) (vars : Record) : Prop :=
  ∃ x, lastVerification log = some x ∧
    ((∃ failure, x = .error failure) ∨
      ∃ v : Verdict, x = .ok (TaxpayerAction.verifyReport v) ∧ v.verified = true ∧
        vars.lookup? "verification.verified" = some (.bool true))

/-- Whether after a step beyond the gate come only such steps. -/
def Forward (ids : List String) : Prop := ids.Pairwise fun id id' => id ∈ beyond → id' ∈ beyond

end Onboarding

open Onboarding

namespace Step

/-- The targets of a step, the end being that of the last one. -/
def exits (s : Step) : List String :=
  match s.next with
  | none => [endTarget]
  | some t => t.targets

/-- The targets of a step whose action failed. -/
def rescues (s : Step) : List String :=
  match s.onError with
  | none => []
  | some t => t.targets

/-- Whether a step respects the gate: beyond it nothing is called and no way leads back; before it,
only a verification leads beyond, and what fails has a way on. -/
def Gated (s : Step) : Prop :=
  (s.id ∈ beyond ∧ s.action = none ∧ ∀ target ∈ s.exits, target ∈ beyond) ∨
  (s.id ∉ beyond ∧ s.action = none ∧ ∀ target ∈ s.exits, target ∉ beyond) ∨
  (s.id ∉ beyond ∧ s.action = some "search_dgi" ∧ s.onError.isSome ∧
    ∀ target ∈ s.exits ++ s.rescues, target ∉ beyond) ∨
  (s.id ∉ beyond ∧ s.action = some "verify_dgi" ∧ s.kind = some .service ∧ s.onError.isSome ∧
    s.next = some gate)

instance (s : Step) : Decidable s.Gated := inferInstanceAs (Decidable (_ ∨ _))

/-- Whether an action is what a step tries: its own when it is reached, or that of an answer. -/
def Tries (s : Step) (action : Option String) : Prop :=
  action = s.ownAction ∨ s.isInteractive = true ∧ action = s.action

theorem Tries.action_eq {s : Step} {name : String} (h : s.Tries (some name)) :
    s.action = some name := by
  obtain hown | ⟨-, hanswer⟩ := h
  · simp only [ownAction] at hown
    split at hown
    · exact hown.symm
    · cases hown
  · exact hanswer.symm

theorem Tries.eq_none {s : Step} {action : Option String} (h : s.Tries action)
    (hnone : s.action = none) : action = none := by
  cases action with
  | none => rfl
  | some name => cases hnone.symm.trans h.action_eq

end Step

namespace Workflow

structure Gated (w : Workflow) : Prop where
  start : w.startStepId ∉ beyond
  hook : w.onComplete = none
  names : ∀ s ∈ w.steps, s.id ≠ "verification"
  step : ∀ s ∈ w.steps, s.Gated

variable {w : Workflow} {s : Step} {c : Context} {d : Destination} {x : CallResult}

theorem target_ofTarget (target : String) : (Destination.ofTarget target).target = target := by
  by_cases hend : target = endTarget
  · simp [Destination.ofTarget, Destination.target, hend]
  · simp [Destination.ofTarget, Destination.target, hend]

theorem target_mem_exits (h : w.destination s c = .ok d) : d.target ∈ s.exits := by
  simp only [destination] at h
  cases hnext : s.next with
  | none =>
    rw [hnext] at h
    cases h
    simp [Step.exits, hnext, Destination.target]
  | some t =>
    simp only [hnext] at h
    split at h
    · rename_i hresolve
      cases h
      obtain ⟨target, htarget, rfl⟩ := Transition.target_of_resolve hresolve
      simpa [Step.exits, hnext, target_ofTarget] using htarget
    · cases h

theorem settle_ne_refuse (honError : s.onError.isSome = true) (failure : CallFailure) :
    w.settle s c x ≠ .refuse failure := by
  obtain ⟨t, ht⟩ := Option.isSome_iff_exists.1 honError
  have hrecover : ∀ (f : CallFailure) (data : Option Record),
      w.recover s c f data ≠ .refuse failure := by
    intro f data
    simp only [recover, ht]
    split
    · simp
    · simp
  cases x with
  | error f => exact hrecover f none
  | ok report =>
    simp only [settle]
    split
    · split
      · simp
      · split
        · simp
        · simp
    · exact hrecover _ _

/-- A report of success without a step to go to leads where the step leads. -/
theorem settle_success {report : Report} (hsuccess : report.success = true)
    (hoverride : report.nextStepOverride = none) {next : Context}
    (h : w.settle s c (.ok report) = .advance next d) :
    next.vars = (c.vars.erase "error").merge (report.data.getD []) ∧
      w.destination s next = .ok d := by
  have hgoes : report.goesOn = true := by simp [Report.goesOn, hsuccess]
  simp only [settle, hgoes, if_true, hoverride] at h
  split at h
  · rename_i hdestination
    cases h
    exact ⟨rfl, hdestination⟩
  · cases h

end Workflow

namespace Onboarding

section Verdicts

variable {vars : Record} {log log' : CallLog TaxpayerAction} {v : Verdict}

theorem lookup?_verified (vars : Record) : vars.lookup? "verification.verified" =
    (vars.get? "verification").bind fun value => value.step? "verified" := by
  have hparts : Record.pathParts "verification.verified" = ["verification", "verified"] := by
    decide +kernel
  simp only [Record.lookup?, hparts, Value.follow?]
  cases vars.get? "verification" with
  | none => rfl
  | some value =>
    simp only [Option.bind_some]
    cases value.step? "verified" with
    | none => rfl
    | some value => rfl

theorem step?_verdict (v : Verdict) : v.toValue.step? "verified" = some (.bool v.verified) := by
  obtain ⟨verified, entry, reason⟩ := v
  cases reason with
  | none =>
    cases entry with
    | none => rfl
    | some t => rfl
  | some reason =>
    cases entry with
    | none => rfl
    | some t => rfl

theorem parse_verified : Condition.parse "verification.verified == true" =
    .ok ⟨"verification.verified", .eq, .bool true⟩ := by
  decide +kernel

theorem sameValue_bool (actual : Option Value) (b : Bool) :
    Condition.sameValue (actual.getD .null) (.bool b) = decide (actual = some (.bool b)) := by
  cases actual with
  | none => simp [Condition.sameValue]
  | some value => cases value <;> simp [Condition.sameValue]

/-- The gate is open if the variables say that the taxpayer is verified. -/
theorem resolve_gate (vars : Record) : gate.resolve vars =
    if vars.lookup? "verification.verified" = some (.bool true) then
      some (.ofTarget "collect_email")
    else some (.ofTarget "verification_failed") := by
  have hopen : Branch.isOpen ⟨some "verification.verified == true", "collect_email"⟩ vars =
      decide (vars.lookup? "verification.verified" = some (.bool true)) := by
    simp only [Branch.isOpen, parse_verified, Condition.holds, sameValue_bool]
  have helse : Branch.isOpen ⟨none, "verification_failed"⟩ vars = true := rfl
  simp only [gate, Transition.resolve, List.find?_cons, hopen, helse]
  by_cases hverified : vars.lookup? "verification.verified" = some (.bool true)
  · rw [if_pos hverified, decide_eq_true hverified]
    rfl
  · rw [if_neg hverified, decide_eq_false hverified]
    rfl

theorem lastVerification_concat {call : Call TaxpayerAction} {x : CallResult}
    (h : call.handler = .verify) : lastVerification (log ++ [⟨call, x⟩]) = some x := by
  simp [lastVerification, h]

/-- An answer kept under another name does not change the verdict. -/
theorem Cleared.insert (h : Cleared log vars) {name : String} (hname : name ≠ "verification")
    (value : Value) : Cleared log (vars.insert name value) := by
  obtain ⟨x, hlast, hfailed | ⟨v, rfl, hv, hlookup⟩⟩ := h
  · exact ⟨x, hlast, .inl hfailed⟩
  · refine ⟨_, hlast, .inr ⟨v, rfl, hv, ?_⟩⟩
    rw [lookup?_verified] at hlookup ⊢
    rwa [Record.get?_insert, if_neg (Ne.symm hname)]

end Verdicts

section Histories

variable {ids : List String} {id id' : String}

theorem forward_concat_iff : Forward (ids ++ [id]) ↔
    Forward ids ∧ ∀ earlier ∈ ids, earlier ∈ beyond → id ∈ beyond := by
  simp [Forward, List.pairwise_append]

theorem Forward.move (h : Forward (ids ++ [id])) (hid : id ∈ beyond → id' ∈ beyond) :
    Forward (ids ++ [id']) := by
  obtain ⟨hids, hlast⟩ := forward_concat_iff.1 h
  exact forward_concat_iff.2 ⟨hids, fun earlier hearlier hbeyond =>
    hid (hlast earlier hearlier hbeyond)⟩

theorem Forward.twice (h : Forward (ids ++ [id])) : Forward (ids ++ [id] ++ [id]) := by
  refine forward_concat_iff.2 ⟨h, fun earlier hearlier hbeyond => ?_⟩
  rcases List.mem_append.1 hearlier with hearlier | hearlier
  · exact (forward_concat_iff.1 h).2 earlier hearlier hbeyond
  · rwa [List.mem_singleton.1 hearlier] at hbeyond

/-- A visit to the current step keeps the order, also where the oldest ones are dropped. -/
theorem Forward.visit (h : Forward (ids ++ [id])) (limit : Nat) :
    Forward (Context.extendHistory limit ids id ++ [id]) := by
  simp only [Context.extendHistory]
  split
  · exact h
  · exact List.Pairwise.sublist ((List.drop_sublist _ _).append (List.Sublist.refl _)) h.twice

theorem Forward.back {c : Context} (h : Forward (c.history ++ [id]))
    (hlast : (Engine.withoutCurrent c id).getLast? = some id') :
    Forward (Engine.withoutCurrent c id ++ [id']) ∧ (id' ∈ beyond → id ∈ beyond) := by
  have hsub : (Engine.withoutCurrent c id).Sublist c.history := by
    simp only [Engine.withoutCurrent]
    split
    · exact List.dropLast_sublist _
    · exact List.Sublist.refl _
  obtain ⟨hids, hto⟩ := forward_concat_iff.1 h
  have hleft : Forward (Engine.withoutCurrent c id) := List.Pairwise.sublist hsub hids
  refine ⟨?_, hto id' (hsub.subset (List.mem_of_getLast? hlast))⟩
  obtain ⟨before, hbefore⟩ := List.getLast?_eq_some_iff.1 hlast
  rw [hbefore] at hleft ⊢
  exact hleft.twice

end Histories

/-- An engine that offers a workflow with the two actions of the tax registry, a search leaving the
next step to the workflow. -/
structure Offers (e : Engine TaxpayerAction) (w : Workflow) : Prop where
  workflow : e.registry.get? w.id = some w
  search : e.actions.get? w.id "search_dgi" = some (.search {})
  verify : e.actions.get? w.id "verify_dgi" = some .verify

theorem offers_registerAll {registry : Registry} {w : Workflow} {limits : Limits}
    (h : registry.get? w.id = some w) :
    Offers ⟨registry, TaxpayerAction.registerAll id {} {}, limits⟩ w where
  workflow := h
  search := rfl
  verify := rfl

/-- Whether the answers of calls are those that the tax registry leads to. -/
def Plausible (log : CallLog TaxpayerAction) : Prop :=
  ∀ entry ∈ log, entry.question.handler.Gives entry.question.request entry.answer

/-- A context at a step, after some calls: the history is in order, and beyond the gate it is
clear. -/
structure Stands (w : Workflow) (log : CallLog TaxpayerAction) (s : Step) (c : Context) : Prop where
  workflow : c.workflowId = some w.id
  registered : w.step? s.id = some s
  current : c.currentStepId = some s.id
  forward : Forward (c.history ++ [s.id])
  cleared : s.id ∈ beyond → Cleared log c.vars

/-- Whether a turn respects the gate at a stage, after some calls. -/
def Respects (w : Workflow) (log : CallLog TaxpayerAction) : Engine.Stage → Prop
  | .resuming s c => Stands w log s c
  | .arrived s c => Stands w log s c
  | .heading c d => c.workflowId = some w.id ∧ Forward (c.history ++ [d.target]) ∧
      (d.target ∈ beyond → Cleared log c.vars)
  | .ended (.waiting s c) => Stands w log s c
  | .ended (.refused _ s c) => Stands w log s c
  | .ended (.failed _ _) => False
  | .ended (.completed c) => Cleared log c.vars
  | .ended (.broken _) => True

def IsBeyond (w : Workflow) : Engine.Stage → Prop
  | .resuming s _ => w.step? s.id = some s ∧ s.id ∈ beyond
  | .arrived s _ => w.step? s.id = some s ∧ s.id ∈ beyond
  | .heading _ d => d.target ∈ beyond
  | .ended _ => True

open Engine

variable {e : Engine TaxpayerAction} {w : Workflow} {input : String} {session : SessionRef}

section Walks

variable {s : Step} {c : Context} {action : Option String} {st st' : Stage} {x : CallResult}
  {events : List (Engine.Event TaxpayerAction)} {log : CallLog TaxpayerAction}

theorem Stands.gated (h : Stands w log s c) (hw : w.Gated) : s.Gated :=
  hw.step s (Workflow.step?_mem h.registered)

theorem Stands.visit (h : Stands w log s c) (limit : Nat) : Stands w log s (c.visit s.id limit) :=
  ⟨h.workflow, h.registered, h.current, h.forward.visit limit, h.cleared⟩

theorem Stands.accepted (h : Stands w log s c) (hw : w.Gated) (value : Value) :
    Stands w log s (e.accepted s c value) := by
  have hname := hw.names s (Workflow.step?_mem h.registered)
  have hset : Stands w log s { c.set s.id value with retryCount := 0 } :=
    ⟨h.workflow, h.registered, h.current, h.forward,
      fun hbeyond => (h.cleared hbeyond).insert hname value⟩
  exact hset.visit _

/-- A step without an action respects the gate by its targets. -/
theorem Stands.leaving (h : Stands w log s c)
    (hexits : ∀ target ∈ s.exits, target ∈ beyond ↔ s.id ∈ beyond) :
    Respects w log (leaving c (w.destination s c)) := by
  cases hdestination : w.destination s c with
  | error err => trivial
  | ok d =>
    have hsame := hexits _ (Workflow.target_mem_exits hdestination)
    exact ⟨h.workflow, h.forward.move hsame.2, fun hbeyond => h.cleared (hsame.1 hbeyond)⟩

/-- Before the gate, a call that leads on to where it is allowed respects the gate. -/
theorem Stands.settled (h : Stands w log s c) (hbefore : s.id ∉ beyond)
    (honError : s.onError.isSome = true) {log' : CallLog TaxpayerAction}
    (hclear : ∀ next d, w.settle s c x = .advance next d → d.target ∈ beyond →
      Cleared log' next.vars) :
    Respects w log' (settled s (w.settle s c x)) := by
  rcases Workflow.settle_cases w s c x with ⟨vars, d, hsettle⟩ | ⟨failure, hsettle⟩ | hsettle
  · rw [hsettle]
    refine ⟨h.workflow, h.forward.move fun hbeyond => absurd hbeyond hbefore, ?_⟩
    exact fun hbeyond => hclear _ d hsettle hbeyond
  · exact absurd hsettle (Workflow.settle_ne_refuse honError failure)
  · rw [hsettle]
    trivial

theorem target_of_search {r : Request} (hgives : (TaxpayerAction.search {}).Gives r x)
    {next : Context} {d : Destination} (h : w.settle s c x = .advance next d) :
    d.target ∈ s.exits ++ s.rescues := by
  cases x with
  | error failure =>
    obtain ⟨t, honError, hresolve⟩ := Workflow.settle_branch h rfl
    obtain ⟨target, htarget, rfl⟩ := Transition.target_of_resolve hresolve
    apply List.mem_append_right
    simpa [Step.rescues, honError, Workflow.target_ofTarget] using htarget
  | ok report =>
    obtain ⟨found, rfl⟩ := TaxpayerAction.report_of_search hgives
    have hoverride : (TaxpayerAction.searchReport {} found).nextStepOverride = none := by
      simp only [TaxpayerAction.searchReport, SearchRoutes.route]
      split
      · rfl
      · rfl
      · rfl
    obtain ⟨-, hdestination⟩ := Workflow.settle_success rfl hoverride h
    exact List.mem_append_left _ (Workflow.target_mem_exits hdestination)

/-- A verification that leads beyond the gate failed or had a positive verdict. -/
theorem cleared_of_verify {call : Call TaxpayerAction} (hhandler : call.handler = .verify)
    (hgives : TaxpayerAction.verify.Gives call.request x) (hnext : s.next = some gate)
    {next : Context} {d : Destination} (h : w.settle s c x = .advance next d)
    (hbeyond : d.target ∈ beyond) : Cleared (log ++ [⟨call, x⟩]) next.vars := by
  refine ⟨x, lastVerification_concat hhandler, ?_⟩
  cases x with
  | error failure => exact .inl ⟨failure, rfl⟩
  | ok report =>
    right
    obtain ⟨v, rfl⟩ := TaxpayerAction.report_of_verify hgives
    obtain ⟨hvars, hdestination⟩ := Workflow.settle_success rfl rfl h
    have hverdict : next.vars.lookup? "verification.verified" = some (.bool v.verified) := by
      have hget : next.vars.get? "verification" = some v.toValue := by
        rw [hvars]
        exact (Record.get?_insert _ _ _ _).trans (if_pos rfl)
      rw [lookup?_verified, hget]
      exact step?_verdict v
    simp only [Workflow.destination, hnext, resolve_gate, hverdict] at hdestination
    cases hverified : v.verified with
    | true => exact ⟨v, rfl, hverified, by rw [hverdict, hverified]⟩
    | false =>
      rw [hverified] at hdestination
      cases hdestination
      exact absurd hbeyond (by decide)

/-- A step without an action calls nothing. -/
theorem Stands.acts_leaving (h : Stands w log s c)
    (hacts : Acts e w input session s c none events st)
    (hexits : ∀ target ∈ s.exits, target ∈ beyond ↔ s.id ∈ beyond) :
    Respects w (log ++ calls events) st := by
  cases hacts with
  | leaves =>
    rw [calls_nil, List.append_nil]
    exact h.leaving hexits

theorem Stands.acts_search (h : Stands w log s c) (he : Offers e w)
    (hacts : Acts e w input session s c action events st) (htries : s.Tries action)
    (hlog : Plausible (calls events)) (hbefore : s.id ∉ beyond)
    (hsearch : s.action = some "search_dgi") (honError : s.onError.isSome = true)
    (hways : ∀ target ∈ s.exits ++ s.rescues, target ∉ beyond) :
    Respects w (log ++ calls events) st := by
  cases hacts with
  | leaves =>
    rw [calls_nil, List.append_nil]
    exact h.leaving fun target htarget =>
      iff_of_false (hways target (List.mem_append_left _ htarget)) hbefore
  | unknown hhandler => trivial
  | @asks name handler hhandler x =>
    obtain rfl := Option.some.inj (htries.action_eq.symm.trans hsearch)
    obtain rfl := Option.some.inj (hhandler.symm.trans he.search)
    have hgives := hlog _ (List.mem_singleton_self _)
    refine h.settled hbefore honError fun next d hsettle hbeyond => ?_
    exact absurd hbeyond (hways _ (target_of_search hgives hsettle))

/-- A verification clears what it leads to beyond the gate. -/
theorem Stands.acts_verify (h : Stands w log s c) (he : Offers e w)
    (hacts : Acts e w input session s c action events st) (htries : s.Tries action)
    (hlog : Plausible (calls events)) (hbefore : s.id ∉ beyond)
    (hverify : s.action = some "verify_dgi") (hkind : s.kind = some .service)
    (honError : s.onError.isSome = true) (hnext : s.next = some gate) :
    Respects w (log ++ calls events) st := by
  cases hacts with
  | leaves =>
    -- A service with an action does not leave without a call.
    obtain hown | ⟨hinteractive, -⟩ := htries
    · simp [Step.ownAction, hkind, hverify] at hown
    · simp [Step.isInteractive, StepKind.isInteractive, hkind] at hinteractive
  | unknown hhandler => trivial
  | @asks name handler hhandler x =>
    obtain rfl := Option.some.inj (htries.action_eq.symm.trans hverify)
    obtain rfl := Option.some.inj (hhandler.symm.trans he.verify)
    have hgives := hlog _ (List.mem_singleton_self _)
    exact h.settled hbefore honError fun next d hsettle hbeyond =>
      cleared_of_verify rfl hgives hnext hsettle hbeyond

theorem Stands.acts (h : Stands w log s c) (he : Offers e w) (hw : w.Gated)
    (hacts : Acts e w input session s c action events st) (htries : s.Tries action)
    (hlog : Plausible (calls events)) : Respects w (log ++ calls events) st := by
  rcases h.gated hw with ⟨hbeyond, hnone, hexits⟩ | ⟨hbefore, hnone, hexits⟩ |
    ⟨hbefore, hsearch, honError, hways⟩ | ⟨hbefore, hverify, hkind, honError, hnext⟩
  · obtain rfl := htries.eq_none hnone
    exact h.acts_leaving hacts fun target htarget => iff_of_true (hexits target htarget) hbeyond
  · obtain rfl := htries.eq_none hnone
    exact h.acts_leaving hacts fun target htarget => iff_of_false (hexits target htarget) hbefore
  · exact h.acts_search he hacts htries hlog hbefore hsearch honError hways
  · exact h.acts_verify he hacts htries hlog hbefore hverify hkind honError hnext

theorem Respects.move (h : Engine.Move e w input session st events st') (hst : Respects w log st)
    (he : Offers e w) (hw : w.Gated) (hlog : Plausible (calls events)) :
    Respects w (log ++ calls events) st' := by
  -- Only `Acts` makes calls; the other moves leave the verdict as it is.
  cases h with
  | kindless hkind => trivial
  | @refused s c kind reason hkind hinteractive hcheck =>
    rw [calls_nil, List.append_nil]
    have hs : Stands w log s c := hst
    exact ⟨hs.workflow, hs.registered, hs.current, hs.forward, hs.cleared⟩
  | @accepted s c kind value events st hkind hinteractive hcheck hacts =>
    have hs : Stands w log s c := hst
    rw [← Workflow.isInteractive_of_kindOf hkind] at hinteractive
    exact (hs.accepted hw value).acts he hw hacts (.inr ⟨hinteractive, rfl⟩) hlog
  | resumed hkind hinteractive hacts => exact Stands.acts hst he hw hacts (.inl rfl) hlog
  | missing hstep => trivial
  | @entered c id s hstep =>
    obtain ⟨hworkflow, hforward, hcleared⟩ := hst
    obtain rfl : s.id = id := Workflow.step?_id hstep
    rw [calls_entered, calls_nil, List.append_nil]
    exact ⟨hworkflow, hstep, rfl, hforward, hcleared⟩
  | @waits s c hauto =>
    have hs : Stands w log s c := hst
    rw [calls_nil, List.append_nil]
    simp only [awaiting]
    split
    · exact hs.visit _
    · exact hs
  | stumbles hauto hkind => trivial
  | runs hauto hkind hacts => exact Stands.acts hst he hw hacts (.inl rfl) hlog
  | completed hhook =>
    rw [calls_nil, List.append_nil]
    exact hst.2.2 (by decide)
  | unhooked hhook h => trivial
  | closed hhook h x => simp [hw.hook] at hhook

theorem Respects.walk (h : Walk e w input session st events st') (hst : Respects w log st)
    (he : Offers e w) (hw : w.Gated) (hlog : Plausible (calls events)) :
    Respects w (log ++ calls events) st' := by
  induction h generalizing log with
  | nil st => simpa using hst
  | cons hmove hwalk ih =>
    rw [calls_append] at hlog ⊢
    obtain ⟨hfirst, hrest⟩ := List.forall_mem_append.1 hlog
    rw [← List.append_assoc]
    exact ih (hst.move hmove he hw hfirst) hrest

theorem IsBeyond.acts (hs : w.step? s.id = some s) (hbeyond : s.id ∈ beyond) (hw : w.Gated)
    (hacts : Acts e w input session s c action events st) (htries : s.Tries action) :
    calls events = [] ∧ IsBeyond w st := by
  obtain ⟨hnone, hexits⟩ : s.action = none ∧ ∀ target ∈ s.exits, target ∈ beyond := by
    rcases hw.step s (Workflow.step?_mem hs) with ⟨-, h⟩ | ⟨hbefore, -⟩ | ⟨hbefore, -⟩ |
      ⟨hbefore, -⟩
    · exact h
    · exact absurd hbeyond hbefore
    · exact absurd hbeyond hbefore
    · exact absurd hbeyond hbefore
  obtain rfl := htries.eq_none hnone
  cases hacts with
  | leaves =>
    refine ⟨rfl, ?_⟩
    cases hdestination : w.destination s c with
    | error err => trivial
    | ok d => exact hexits _ (Workflow.target_mem_exits hdestination)

theorem IsBeyond.move (h : Engine.Move e w input session st events st') (hst : IsBeyond w st)
    (hw : w.Gated) : calls events = [] ∧ IsBeyond w st' := by
  cases h with
  | kindless hkind => exact ⟨rfl, trivial⟩
  | refused hkind hinteractive hcheck => exact ⟨rfl, trivial⟩
  | accepted hkind hinteractive hcheck hacts =>
    rw [← Workflow.isInteractive_of_kindOf hkind] at hinteractive
    exact IsBeyond.acts hst.1 hst.2 hw hacts (.inr ⟨hinteractive, rfl⟩)
  | resumed hkind hinteractive hacts => exact IsBeyond.acts hst.1 hst.2 hw hacts (.inl rfl)
  | missing hstep => exact ⟨rfl, trivial⟩
  | @entered c id s hstep =>
    obtain rfl : s.id = id := Workflow.step?_id hstep
    exact ⟨rfl, hstep, hst⟩
  | waits hauto => exact ⟨rfl, trivial⟩
  | stumbles hauto hkind => exact ⟨rfl, trivial⟩
  | runs hauto hkind hacts => exact IsBeyond.acts hst.1 hst.2 hw hacts (.inl rfl)
  | completed hhook => exact ⟨rfl, trivial⟩
  | unhooked hhook h => exact ⟨rfl, trivial⟩
  | closed hhook h x => simp [hw.hook] at hhook

theorem IsBeyond.walk (h : Walk e w input session st events st') (hst : IsBeyond w st)
    (hw : w.Gated) : calls events = [] := by
  induction h with
  | nil st => rfl
  | cons hmove hwalk ih =>
    obtain ⟨hfirst, hst₁⟩ := hst.move hmove hw
    rw [calls_append, hfirst, ih hst₁]
    rfl

end Walks

end Onboarding

namespace Engine

/-- The courses of a conversation in a workflow: a start, then inputs and ways back, each on the
context left before, which a turn that fails leaves as it was. A course has all that was called, the
context left and the result of the last turn. -/
inductive Course (e : Engine H) (id : String) : CallLog H → Context → Option StepResult → Prop
  | start {now : Instant} {session : SessionRef} {log : CallLog H} {c : Context} {r : StepResult}
      (hturn : After (e.start id now session) log (.done (.ok (c, r)))) : Course e id log c (some r)
  | input {log log' : CallLog H} {c c' : Context} {last : Option StepResult} {input : String}
      {session : SessionRef} {r : StepResult} (h : Course e id log c last)
      (hturn : After (e.processInput c input session) log' (.done (.ok (c', r)))) :
      Course e id (log ++ log') c' (some r)
  | failed {log log' : CallLog H} {c : Context} {last : Option StepResult} {input : String}
      {session : SessionRef} {err : Error} (h : Course e id log c last)
      (hturn : After (e.processInput c input session) log' (.done (.error err))) :
      Course e id (log ++ log') c none
  | back {log : CallLog H} {c c' : Context} {last : Option StepResult} {navigation : Navigation}
      (h : Course e id log c last) (hback : e.goBack c = .ok (c', navigation)) :
      Course e id log c' none

end Engine

namespace Onboarding

open Engine

variable {e : Engine TaxpayerAction} {w : Workflow} {input : String} {session : SessionRef}

section Courses

variable {c c' k : Context} {s : Step} {st : Stage} {budget : Nat}
  {log log' : CallLog TaxpayerAction} {r : StepResult} {last : Option StepResult}

/-- Whether a context is idle, or at a step with the gate respected. -/
def Ready (w : Workflow) (log : CallLog TaxpayerAction) (c : Context) : Prop :=
  c.workflowId = none ∧ c.currentStepId = none ∨ ∃ s, Stands w log s c

/-- Whether the latest verification lets a workflow be completed, if it is. -/
def Completes (log : CallLog TaxpayerAction) (r : StepResult) : Prop :=
  ∀ finalData notices message, r = .completed finalData notices message → Cleared log finalData

theorem respects_of_ends (h : Ends e w input session budget [] k st log' (.ok (c', r)))
    (hst : Respects w log st) (he : Offers e w) (hw : w.Gated) (hlog : Plausible log') :
    Ready w (log ++ log') c' ∧ Completes (log ++ log') r := by
  obtain ⟨events, f, hwalk, rfl, -, hresult⟩ := h.of_ok
  have hfinish := hst.walk hwalk he hw hlog
  cases f with
  | waiting s c =>
    cases hresult
    exact ⟨.inr ⟨s, hfinish⟩, fun _ _ _ hr => by cases hr⟩
  | refused reason s c =>
    cases hresult
    exact ⟨.inr ⟨s, hfinish⟩, fun _ _ _ hr => by cases hr⟩
  | failed stepId failure => exact hfinish.elim
  | completed c =>
    cases hresult
    refine ⟨.inl ⟨rfl, rfl⟩, fun _ _ _ hr => ?_⟩
    cases hr
    exact hfinish
  | broken err => cases hresult

theorem Stands.locate (h : Stands w log s c) (he : Offers e w) : e.locate c = .ok (w, s) :=
  locate_eq_ok_iff.2 ⟨he.workflow, h.workflow, h.registered, h.current⟩

/-- A turn that fails leaves the gate respected, whatever it called. -/
theorem Stands.of_failed (h : Stands w log s c) (he : Offers e w) (hw : w.Gated) {err : Error}
    (hturn : After (e.processInput c input session) log' (.done (.error err))) :
    Stands w (log ++ log') s c := by
  refine ⟨h.workflow, h.registered, h.current, h.forward, fun hbeyond => ?_⟩
  obtain ⟨events, st, hwalk, rfl, -⟩ := (after_processInput_iff (h.locate he)).1 hturn
  have hthere : IsBeyond w (.resuming s c) := ⟨h.registered, hbeyond⟩
  rw [hthere.walk hwalk hw, List.append_nil]
  exact h.cleared hbeyond

theorem Stands.goBack (h : Stands w log s c) (he : Offers e w) {navigation : Navigation}
    (hback : e.goBack c = .ok (c', navigation)) : ∃ s', Stands w log s' c' := by
  simp only [Engine.goBack, h.locate he, Bind.bind, Except.bind] at hback
  split at hback
  · cases hback
    exact ⟨s, h⟩
  · split at hback
    · rename_i hnone
      cases hback
      have hnil : withoutCurrent c s.id = [] := List.getLast?_eq_none_iff.1 hnone
      have hforward : Forward (withoutCurrent c s.id ++ [s.id]) := by
        rw [hnil]
        exact List.pairwise_singleton _ _
      exact ⟨s, h.workflow, h.registered, h.current, hforward, h.cleared⟩
    · rename_i id hlast
      cases htarget : w.step? id with
      | none => simp [htarget] at hback
      | some target =>
        simp only [htarget] at hback
        cases hback
        obtain rfl : target.id = id := Workflow.step?_id htarget
        obtain ⟨hforward, hbefore⟩ := h.forward.back hlast
        refine ⟨target, h.workflow, htarget, rfl, hforward, fun hbeyond => ?_⟩
        exact h.cleared (hbefore hbeyond)

theorem ready_of_course (h : e.Course w.id log c last) (he : Offers e w) (hw : w.Gated)
    (hlog : Plausible log) :
    Ready w log c ∧ ∀ r ∈ last, Completes log r := by
  -- By induction on the course; a turn that ends in an error leaves the context it was given.
  induction h with
  | @start now session log c r hturn =>
    have hstart : Respects w [] (.heading (Context.start w.id w.startStepId now)
        (.step w.startStepId)) :=
      ⟨rfl, List.pairwise_singleton _ _, fun hbeyond => absurd hbeyond hw.start⟩
    have hends := (after_start_iff he.workflow).1 hturn
    obtain ⟨hready, hcompletes⟩ := respects_of_ends hends hstart he hw hlog
    exact ⟨hready, fun r' hr' => by cases hr'; exact hcompletes⟩
  | @input log log' c c' last input session r h hturn ih =>
    obtain ⟨hbefore, hnow⟩ := List.forall_mem_append.1 hlog
    obtain ⟨⟨hidle, -⟩ | ⟨s, hs⟩, -⟩ := ih hbefore
    · exact absurd hidle (workflowId_ne_none_of_processInput hturn)
    · have hends := (after_processInput_iff (hs.locate he)).1 hturn
      obtain ⟨hready, hcompletes⟩ := respects_of_ends hends hs he hw hnow
      exact ⟨hready, fun r' hr' => by cases hr'; exact hcompletes⟩
  | @failed log log' c last input session err h hturn ih =>
    obtain ⟨hready, -⟩ := ih (List.forall_mem_append.1 hlog).1
    refine ⟨?_, fun r' hr' => by cases hr'⟩
    rcases hready with hidle | ⟨s, hs⟩
    · exact .inl hidle
    · exact .inr ⟨s, hs.of_failed he hw hturn⟩
  | @back log c c' last navigation h hback ih =>
    obtain ⟨⟨hidle, -⟩ | ⟨s, hs⟩, -⟩ := ih hlog
    · exact absurd hidle (workflowId_ne_none_of_goBack hback)
    · exact ⟨.inr (hs.goBack he hback), fun r' hr' => by cases hr'⟩

end Courses

end Onboarding

/-- The onboarding of a taxpayer: searched by name, verified, and asked for an address and a
number. -/
def onboarding : Workflow where
  id := "onboarding"
  startStepId := "welcome"
  showProgress := true
  completionPromptKey := some "onboarding.completed"
  steps := [
    { id := "welcome", kind := some .message, promptKey := "onboarding.welcome",
      next := some (.fixed "collect_name") },
    { id := "collect_name", kind := some .input, promptKey := "onboarding.ask_name",
      validation := some { kind := .name, minLength := some 2, maxLength := some 100 },
      action := some "search_dgi", params := [("name", .reference "collect_name")],
      onError := some (.fixed "search_unavailable"),
      next := some (.branches [⟨some "dgi.count == 0", "no_match"⟩,
        ⟨some "dgi.count == 1", "confirm_single"⟩, ⟨none, "several_matches"⟩]) },
    { id := "confirm_single", kind := some .choice, promptKey := "onboarding.confirm_single",
      choices := [⟨"yes", "choices.yes", some (.bool true)⟩,
        ⟨"no", "choices.no", some (.bool false)⟩],
      next := some (.branches [⟨some "confirm_single == true", "verify_match"⟩,
        ⟨none, "collect_nif"⟩]) },
    { id := "no_match", kind := some .message, promptKey := "onboarding.no_match",
      next := some (.fixed "collect_nif") },
    { id := "several_matches", kind := some .message, promptKey := "onboarding.several_matches",
      next := some (.fixed "collect_nif") },
    { id := "search_unavailable", kind := some .message,
      promptKey := "onboarding.search_unavailable", next := some (.fixed "collect_nif") },
    { id := "collect_nif", kind := some .input, promptKey := "onboarding.ask_nif",
      validation := some { kind := .pattern, pattern := some "^[0-9]\x7b7,10\x7d[A-Za-z]?$" },
      next := some (.fixed "verifying") },
    { id := "verifying", kind := some .message, promptKey := "onboarding.verifying", pause := true,
      next := some (.fixed "verify_manual") },
    { id := "verify_match", kind := some .service, action := some "verify_dgi",
      params := [("nif", .reference "dgi.match.nif")],
      onError := some (.fixed "verification_unavailable"), next := some Onboarding.gate },
    { id := "verify_manual", kind := some .service, action := some "verify_dgi",
      params := [("nif", .reference "collect_nif")],
      onError := some (.fixed "verification_unavailable"), next := some Onboarding.gate },
    { id := "verification_failed", kind := some .message,
      promptKey := "onboarding.verification_failed", next := some (.fixed "collect_nif") },
    { id := "verification_unavailable", kind := some .message,
      promptKey := "onboarding.verification_unavailable", next := some (.fixed "collect_email") },
    { id := "collect_email", kind := some .input, promptKey := "onboarding.ask_email",
      validation := some { kind := .email }, next := some (.fixed "collect_phone") },
    { id := "collect_phone", kind := some .input, promptKey := "onboarding.ask_phone",
      validation := some { kind := .phone }, next := some (.fixed endTarget) }]

namespace Onboarding

theorem onboarding_gated : onboarding.Gated where
  start := by decide
  hook := rfl
  names := by decide
  step := by decide

open Engine

/-- Nobody gets past the verification by mistake. Whatever the tax registry answers, and in whatever
order inputs and ways back follow the start of the onboarding: at the last two steps, and in the
data handed over at its completion, the latest verification failed, or its verdict was positive and
is what the variables say. -/
theorem verified_or_failed {e : Engine TaxpayerAction} {log : CallLog TaxpayerAction} {c : Context}
    {last : Option StepResult} (he : Offers e onboarding) (h : e.Course "onboarding" log c last)
    (hlog : Plausible log) :
    (c.currentStepId = some "collect_email" ∨ c.currentStepId = some "collect_phone" →
      Cleared log c.vars) ∧
    ∀ finalData notices message, last = some (.completed finalData notices message) →
      Cleared log finalData := by
  obtain ⟨hready, hcompletes⟩ := ready_of_course (w := onboarding) h he onboarding_gated hlog
  refine ⟨fun hcurrent => ?_, fun finalData notices message hlast => ?_⟩
  · rcases hready with ⟨-, hidle⟩ | ⟨s, hs⟩
    · simp [hidle] at hcurrent
    · rw [hs.current] at hcurrent
      simp only [Option.some.injEq] at hcurrent
      apply hs.cleared
      rcases hcurrent with hid | hid
      · rw [hid]
        decide
      · rw [hid]
        decide
  · exact hcompletes _ hlast finalData notices message rfl

def ana : Taxpayer := { nif := "5417000123", name := "ANA" }

def office : Engine TaxpayerAction where
  registry := ⟨[onboarding]⟩
  actions := TaxpayerAction.registerAll id {} {}

def officeAnswers (u : Unit) (call : Call TaxpayerAction) : CallResult × Unit :=
  (TaxpayerService.call (.directory ⟨[ana]⟩) ⟨⟨0, 0⟩, fun _ => .error "offline"⟩ call, u)

def asked : Context :=
  { workflowId := some "onboarding", currentStepId := some "collect_name",
    history := ["collect_name"], startedAt := some ⟨0, 0⟩ }

def matched : Context :=
  { asked with
    currentStepId := some "confirm_single"
    vars := [("collect_name", .text "ANA"), ("dgi", .object [("count", .number (.integer 1)),
      ("match", ana.toValue), ("results", .list [ana.toValue])])]
    history := ["collect_name", "confirm_single"] }

theorem plausible_officeAnswers {log : CallLog TaxpayerAction} {x y : Unit}
    (h : Answered officeAnswers x log y) : Plausible log := by
  induction h with
  | nil x => simp [Plausible]
  | cons h hrest ih =>
    cases h
    exact List.forall_mem_cons.2 ⟨TaxpayerAction.gives_call _ _ _, ih⟩

theorem exists_turn {turn : Turn TaxpayerAction} {α : Type} {f : Context × StepResult → α} {a : α}
    (h : (run officeAnswers () turn).1.map f = .ok a) :
    ∃ log c r, After turn log (.done (.ok (c, r))) ∧ Plausible log ∧ f (c, r) = a := by
  obtain ⟨log, hturn, hlog⟩ := exists_answered officeAnswers () turn
  cases hresult : (run officeAnswers () turn).1 with
  | error err =>
    rw [hresult] at h
    cases h
  | ok result =>
    rw [hresult] at h hturn
    exact ⟨log, result.1, result.2, hturn, plausible_officeAnswers hlog, Except.ok.inj h⟩

theorem verified_or_failed_office : Offers office onboarding ∧
    ∃ log c last, office.Course "onboarding" log c last ∧ Plausible log ∧
      c.currentStepId = some "collect_email" ∧ Cleared log c.vars := by
  have hoffers : Offers office onboarding := offers_registerAll rfl
  have hstart : (run officeAnswers () (office.start "onboarding" ⟨0, 0⟩ ⟨"user", none⟩)).1.map
      Prod.fst = .ok asked := by decide +kernel
  have hname : (run officeAnswers () (office.processInput asked "ANA" ⟨"user", none⟩)).1.map
      Prod.fst = .ok matched := by decide +kernel
  have hyes : (run officeAnswers () (office.processInput matched "yes" ⟨"user", none⟩)).1.map
      (·.1.currentStepId) = .ok (some "collect_email") := by decide +kernel
  obtain ⟨log₁, _, r₁, hturn₁, hlog₁, rfl⟩ := exists_turn hstart
  obtain ⟨log₂, _, r₂, hturn₂, hlog₂, rfl⟩ := exists_turn hname
  obtain ⟨log₃, c, r₃, hturn₃, hlog₃, hcurrent⟩ := exists_turn hyes
  have hcourse := ((Course.start hturn₁).input hturn₂).input hturn₃
  have hlog : Plausible (log₁ ++ log₂ ++ log₃) :=
    List.forall_mem_append.2 ⟨List.forall_mem_append.2 ⟨hlog₁, hlog₂⟩, hlog₃⟩
  exact ⟨hoffers, _, c, _, hcourse, hlog, hcurrent,
    (verified_or_failed hoffers hcourse hlog).1 (.inl hcurrent)⟩

end Onboarding

end Dialogue
