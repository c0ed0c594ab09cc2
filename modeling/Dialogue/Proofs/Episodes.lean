import Dialogue.Proofs.Description

namespace Dialogue

open Interaction

variable {H : Type}

namespace Engine

/-- What a caller had done, with what came of it: a turn, at a step with an input unless it is the
start, or a way back. -/
inductive Episode (H : Type) where
  | turn (taken : Option (Step × String)) (events : List (Event H)) (c : Context)
      (result : StepResult)
  | back (c : Context) (navigation : Navigation)

/-- Whether the events are what happened in a finished turn from a stage whose calls were answered
in some way. -/
def Happened (e : Engine H) (w : Workflow) (input : String) (session : SessionRef) (st : Stage)
    (log : CallLog H) (events : List (Event H)) : Prop :=
  calls events = log ∧ ∃ f, Walk e w input session st events (.ended f)

/-- The runs in a workflow, with the context that each of them leaves. -/
inductive Plays (e : Engine H) (w : Workflow) : List (Episode H) → Context → Prop
  | start {id : String} {now : Instant} {session : SessionRef} {log : CallLog H} {c : Context}
      {r : StepResult} {events : List (Event H)} (hget : e.registry.get? id = some w)
      (hturn : After (e.start id now session) log (.done (.ok (c, r))))
      (hevents : e.Happened w "" session
        (.heading (Context.start w.id w.startStepId now) (.step w.startStepId)) log events) :
      Plays e w [.turn none events c r] c
  | input {run : List (Episode H)} {c c' : Context} {s : Step} {input : String}
      {session : SessionRef} {log : CallLog H} {r : StepResult} {events : List (Event H)}
      (hrun : Plays e w run c) (hlocate : e.locate c = .ok (w, s))
      (hturn : After (e.processInput c input session) log (.done (.ok (c', r))))
      (hevents : e.Happened w input session (.resuming s c) log events) :
      Plays e w (run ++ [.turn (some (s, input)) events c' r]) c'
  | back {run : List (Episode H)} {c c' : Context} {navigation : Navigation}
      (hrun : Plays e w run c) (hback : e.goBack c = .ok (c', navigation)) :
      Plays e w (run ++ [.back c' navigation]) c'

variable {e : Engine H} {w : Workflow} {input : String} {session : SessionRef}
  {run : List (Episode H)} {c c' k : Context} {st : Stage} {budget : Nat} {log : CallLog H}
  {events : List (Event H)} {r : StepResult}

theorem Happened.result (h : e.Happened w input session st log events)
    (hends : Ends e w input session budget [] k st log (.ok (c', r))) :
    ∃ f, Walk e w input session st events (.ended f) ∧
      f.result w (notices w events) (held k events) = .ok (c', r) := by
  obtain ⟨rfl, f, hwalk⟩ := h
  obtain ⟨events', f', hwalk', hcalls, -, hresult⟩ := hends.of_ok
  obtain rfl := hwalk.unique hwalk' hcalls.symm
  exact ⟨f', hwalk', hresult⟩

theorem Ends.happened (h : Ends e w input session budget [] k st log (.ok (c', r))) :
    ∃ events, e.Happened w input session st log events := by
  obtain ⟨events, f, hwalk, hcalls, -, -⟩ := h.of_ok
  exact ⟨events, hcalls, f, hwalk⟩

theorem exists_plays_start {id : String} {now : Instant} (hget : e.registry.get? id = some w)
    (h : After (e.start id now session) log (.done (.ok (c, r)))) :
    ∃ events, e.Plays w [.turn none events c r] c := by
  obtain ⟨events, hevents⟩ := ((after_start_iff hget).1 h).happened
  exact ⟨events, .start hget h hevents⟩

/-- Every run leaves a context in its workflow, or an idle one once the workflow is completed. -/
theorem Plays.ready (h : e.Plays w run c) (hbuilt : e.registry.Built) :
    e.registry.get? w.id = some w ∧ (c.workflowId = none ∨ c.Within w) := by
  induction h with
  | start hget hturn hevents =>
    exact ⟨by rwa [Registry.get?_id hget], (start_describes hbuilt hget hturn).2⟩
  | @input run c c' s input session log r events hrun hlocate hturn hevents ih =>
    obtain ⟨hget, hidle | hwithin⟩ := ih
    · exact absurd hidle (workflowId_ne_none_of_processInput hturn)
    · exact ⟨hget, (processInput_describes hget hwithin hturn).2⟩
  | @back run c c' navigation hrun hback ih =>
    obtain ⟨hget, hidle | hwithin⟩ := ih
    · exact absurd hidle (workflowId_ne_none_of_goBack hback)
    · obtain ⟨s, hs⟩ := exists_standsAt hwithin
      exact ⟨hget, .inr (goBack_standsAt hget hs hback).1⟩

theorem Plays.exists_input (h : e.Plays w run c) (hbuilt : e.registry.Built)
    (hturn : After (e.processInput c input session) log (.done (.ok (c', r)))) :
    ∃ s events, e.locate c = .ok (w, s) ∧
      e.Plays w (run ++ [.turn (some (s, input)) events c' r]) c' := by
  obtain ⟨hget, hidle | hwithin⟩ := h.ready hbuilt
  · exact absurd hidle (workflowId_ne_none_of_processInput hturn)
  · obtain ⟨s, hs⟩ := exists_standsAt hwithin
    have hlocate := locate_standsAt hget hs
    obtain ⟨events, hevents⟩ := ((after_processInput_iff hlocate).1 hturn).happened
    exact ⟨s, events, hlocate, .input h hlocate hturn hevents⟩

end Engine

end Dialogue
