import Dialogue.Proofs.Ceiling
import Dialogue.Proofs.WellFormed

namespace Dialogue

open Interaction

variable {H : Type}

namespace Context

/-- What lasts of a context through a turn, besides the visits it adds. -/
def lasting (c : Context) : Context := { c with currentStepId := none, vars := [], retryCount := 0 }

def visitAll (c : Context) (limit : Nat) (ids : List String) : Context :=
  { c with history := ids.foldl (extendHistory limit) c.history }

variable {c c' : Context} {limit : Nat} {ids ids' : List String}

theorem visitAll_append :
    c.visitAll limit (ids ++ ids') = (c.visitAll limit ids).visitAll limit ids' := by
  simp [visitAll, List.foldl_append]

theorem history_eq_of_lasting (h : c.lasting = c'.lasting) : c.history = c'.history := by
  have hhistory : c.lasting.history = c'.lasting.history := by rw [h]
  exact hhistory

theorem visitAll_keeps {P : List String → Prop}
    (hvisit : ∀ history id, P history → P (extendHistory limit history id)) (h : P c.history) :
    P (c.visitAll limit ids).history := by
  induction ids generalizing c with
  | nil => exact h
  | cons id ids ih =>
    have hfirst : P (c.visit id limit).history := hvisit c.history id h
    exact ih hfirst

theorem length_extendHistory_le {history : List String} {id : String}
    (h : history.length ≤ limit) : (extendHistory limit history id).length ≤ limit := by
  simp only [extendHistory]
  split
  · exact h
  · rw [lastEntries, List.length_drop]
    omega

end Context

def Step.visited (s : Step) : List String := if s.isInteractive then [s.id] else []

def Prompt.visited (p : Prompt) : List String := if p.expectsInput then [p.stepId] else []

namespace Engine

def Stage.visited : Stage → List String
  | .resuming s _ => s.visited
  | .arrived _ _ => []
  | .heading _ _ => []
  | .ended _ => []

variable {e : Engine H} {w : Workflow} {input : String} {session : SessionRef}

section Walks

variable {s : Step} {c b v : Context} {action : Option String} {limit : Nat}
  {events : List (Event H)} {st st' : Stage}

/-- What a stage has of the context its turn began on, of which `b` lasts, and `v` with the visit
noted there. -/
def Stage.Carries (limit : Nat) (b v : Context) : Stage → Prop
  | .resuming s c => c.lasting = b ∧ b.visitAll limit s.visited = v
  | .arrived _ c => c.lasting = v
  | .heading c _ => c.lasting = v
  | .ended (.waiting s c) => c.lasting = v.visitAll limit s.visited
  | .ended (.refused _ _ c) => c.lasting = b
  | .ended (.failed _ _) => True
  | .ended (.completed c) => c.lasting = v
  | .ended (.broken _) => True

theorem Acts.carries (h : Acts e w input session s c action events st) (hc : c.lasting = v) :
    st.Carries limit b v := by
  obtain ⟨vars, d, rfl⟩ | ⟨failure, rfl⟩ | ⟨err, rfl, -⟩ := h.leads
  · exact hc
  · trivial
  · trivial

theorem lasting_accepted (value : Value) (hs : s.isInteractive = true) :
    (e.accepted s c value).lasting = c.lasting.visitAll e.limits.historyLimit s.visited := by
  rw [Step.visited, if_pos hs]
  rfl

theorem lasting_awaiting (e : Engine H) (s : Step) (c : Context) :
    (e.awaiting s c).lasting = c.lasting.visitAll e.limits.historyLimit s.visited := by
  by_cases hs : s.isInteractive = true
  · rw [awaiting, Step.visited, if_pos hs, if_pos hs]
    rfl
  · rw [awaiting, Step.visited, if_neg hs, if_neg hs]
    rfl

theorem Move.carries (h : Move e w input session st events st')
    (hst : st.Carries e.limits.historyLimit b v) : st'.Carries e.limits.historyLimit b v := by
  -- A visit is noted where an answer is taken or awaited, and nowhere between.
  cases h with
  | kindless hkind => trivial
  | refused hkind hinteractive hcheck => exact hst.1
  | @accepted s c kind value events st hkind hinteractive hcheck hacts =>
    have hs : s.isInteractive = true := by rw [Workflow.isInteractive_of_kindOf hkind, hinteractive]
    obtain ⟨rfl, rfl⟩ := hst
    exact hacts.carries (lasting_accepted value hs)
  | @resumed s c kind events st hkind hinteractive hacts =>
    have hs : ¬ s.isInteractive = true := by
      simp [Workflow.isInteractive_of_kindOf hkind, hinteractive]
    obtain ⟨rfl, rfl⟩ := hst
    rw [Step.visited, if_neg hs]
    exact hacts.carries rfl
  | missing hstep => trivial
  | entered hstep => exact hst
  | @waits s c hauto =>
    obtain rfl : c.lasting = v := hst
    exact lasting_awaiting e s c
  | stumbles hauto hkind => trivial
  | runs hauto hkind hacts => exact hacts.carries hst
  | completed hhook => exact hst
  | unhooked hhook h => trivial
  | @closed c hook handler hhook h x =>
    cases x with
    | error failure => trivial
    | ok report =>
      by_cases hsuccess : report.success = true
      · simp only [hooked, hsuccess, if_true, Stage.Carries]
        exact hst
      · simp [hooked, hsuccess, Stage.Carries]

theorem Walk.carries (h : Walk e w input session st events st')
    (hst : st.Carries e.limits.historyLimit b v) : st'.Carries e.limits.historyLimit b v := by
  induction h with
  | nil st => exact hst
  | cons hmove hwalk ih => exact ih (hmove.carries hst)

theorem Walk.held_cases (h : Walk e w input session st events st')
    (hst : st.Carries e.limits.historyLimit b v) (k : Context) :
    held k events = k ∨ (held k events).lasting = v := by
  by_cases hentrances : entrances events = []
  · exact .inl (held_of_entrances k hentrances)
  · obtain ⟨before, s, c, since, hevents, hsince⟩ := exists_last_entered hentrances
    obtain ⟨st₁, st₂, hbefore, hmove, -⟩ := h.split hevents
    obtain ⟨c₀, id, rfl, -, rfl, -⟩ := hmove.of_entered
    right
    rw [hevents, held_append, held_entered, held_of_entrances _ hsince]
    exact hbefore.carries hst

end Walks

section Turns

variable {c c' k : Context} {st : Stage} {turn : Turn H} {log : CallLog H} {r : StepResult}
  {budget limit : Nat} {ids : List String}

/-- What a turn leaves of the context `c`, if its beginning notes visits to some steps. A refused
input notes nothing, and neither does a failed call at the step the turn begins on. -/
def Leaves (limit : Nat) (c : Context) (ids : List String) (c' : Context) : StepResult → Prop
  | .awaitingInput prompt _ => c'.lasting = c.lasting.visitAll limit (ids ++ prompt.visited)
  | .validationError _ _ _ => c'.lasting = c.lasting
  | .serviceError _ _ => c'.lasting = c.lasting ∨ c'.lasting = c.lasting.visitAll limit ids
  | .completed _ _ _ => c' = { version := c.version }

theorem Ends.leaves (h : Ends e w input session budget [] c st log (.ok (c', r)))
    (hst : st.Carries e.limits.historyLimit c.lasting
      (c.lasting.visitAll e.limits.historyLimit st.visited)) :
    Leaves e.limits.historyLimit c st.visited c' r := by
  obtain ⟨events, f, hwalk, -, -, hresult⟩ := h.of_ok
  have hfinish := hwalk.carries hst
  cases f with
  | waiting s c₁ =>
    cases hresult
    rw [Leaves, Context.visitAll_append]
    exact hfinish
  | refused reason s c₁ =>
    cases hresult
    exact hfinish
  | failed stepId failure =>
    cases hresult
    exact (hwalk.held_cases hst c).imp_left (congrArg Context.lasting)
  | completed c₁ =>
    cases hresult
    have hversion : c₁.lasting.version = c.version := by
      rw [hfinish]
      rfl
    rw [Leaves, Context.clear, ← hversion]
    rfl
  | broken err => cases hresult

/-- A turn adds to the history where it begins and where it waits. -/
theorem Opens.leaves (h : Opens e w session input c st turn)
    (hdone : After turn log (.done (.ok (c', r)))) :
    Leaves e.limits.historyLimit c st.visited c' r := by
  have hends := after_rest_iff.1 (h.eq_rest ▸ hdone)
  cases h with
  | start now hget => exact hends.leaves rfl
  | input input hlocate => exact hends.leaves ⟨rfl, rfl⟩

/-- The history a turn leaves is what it found with some visits added, unless it is empty. -/
theorem Leaves.history (h : Leaves limit c ids c' r) :
    c'.history = [] ∨ ∃ ids', c'.history = (c.visitAll limit ids').history := by
  have hadded : ∀ ids', c'.lasting = (c.visitAll limit ids').lasting →
      ∃ ids', c'.history = (c.visitAll limit ids').history :=
    fun ids' h => ⟨ids', Context.history_eq_of_lasting h⟩
  cases r with
  | awaitingInput prompt notices => exact .inr (hadded (ids ++ prompt.visited) h)
  | validationError reason prompt attempt => exact .inr (hadded [] h)
  | serviceError stepId failure => exact .inr (h.elim (hadded []) (hadded ids))
  | completed finalData notices message => exact .inl (by rw [h])

theorem Leaves.keeps {P : List String → Prop} (h : Leaves limit c ids c' r) (hnil : P [])
    (hvisit : ∀ history id, P history → P (Context.extendHistory limit history id))
    (hc : P c.history) : P c'.history := by
  obtain hempty | ⟨ids', hids⟩ := h.history
  · rwa [hempty]
  · rw [hids]
    exact Context.visitAll_keeps hvisit hc

theorem goBack_history {navigation : Navigation} (h : e.goBack c = .ok (c', navigation)) :
    c'.history = c.history ∨ c'.history = c.history.dropLast := by
  have hwithout : ∀ id, withoutCurrent c id = c.history ∨
      withoutCurrent c id = c.history.dropLast := by
    intro id
    simp only [withoutCurrent]
    split
    · exact .inr rfl
    · exact .inl rfl
  simp only [goBack, Bind.bind, Except.bind] at h
  cases hlocate : e.locate c with
  | error err => simp [hlocate] at h
  | ok there =>
    simp only [hlocate] at h
    split at h
    · cases h
      exact .inl rfl
    · split at h
      · cases h
        exact hwithout _
      · rename_i id hlast
        cases hstep : there.1.step? id with
        | none => simp [hstep] at h
        | some target =>
          simp only [hstep] at h
          cases h
          exact hwithout _

/-- What visits and ways back keep holds of the history of every context reached. -/
theorem Reached.history {P : List String → Prop} (h : e.Reached c) (hnil : P [])
    (hvisit : ∀ history id, P history →
      P (Context.extendHistory e.limits.historyLimit history id))
    (hback : ∀ history, P history → P history.dropLast) : P c.history := by
  induction h with
  | idle => exact hnil
  | @started id w now session log c result hget h =>
    exact ((Opens.start now hget).leaves h).keeps hnil hvisit hnil
  | @answered c c' input session log result hc h ih =>
    obtain ⟨w, s, hlocate⟩ := exists_locate h
    exact ((Opens.input input hlocate).leaves h).keeps hnil hvisit ih
  | @wentBack c c' navigation hc h ih =>
    rcases goBack_history h with hsame | hless
    · rwa [hsame]
    · rw [hless]
      exact hback _ ih
  | cancelled hc ih => exact hnil
  | stamped hc version ih => exact ih

theorem Reached.length_history_le (h : e.Reached c) :
    c.history.length ≤ e.limits.historyLimit := by
  have hback : ∀ history : List String, history.length ≤ e.limits.historyLimit →
      history.dropLast.length ≤ e.limits.historyLimit := by
    intro history hlength
    rw [List.length_dropLast]
    omega
  exact h.history (Nat.zero_le _) (fun _ _ => Context.length_extendHistory_le) hback

end Turns

end Engine

end Dialogue
