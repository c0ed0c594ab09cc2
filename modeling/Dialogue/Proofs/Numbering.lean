import Dialogue.Proofs.Answers
import Dialogue.Proofs.Delivery
import Dialogue.Proofs.InstantText
import Dialogue.Proofs.Spelling
import Dialogue.Proofs.Trimming

namespace Dialogue

open Interaction

variable {H : Type}

namespace Numeral

open Double

theorem natural64?_digitsOf {n : Nat} (hn : n < 2 ^ 64) : natural64? (digitsOf n) = some n := by
  have hread := (isDigits_digitsOf n).digits?
  rw [valueOf_digitsOf] at hread
  obtain ⟨c, ds, hds, hc⟩ := (isDigits_digitsOf n).head
  rw [hds] at hread ⊢
  have hplus : c ≠ '+' := by
    rintro rfl
    simp at hc
  have hbound : n ≤ Nat.pow 2 64 - 1 := Nat.le_sub_one_of_lt hn
  simp [natural64?, natural?, hplus, hread, hbound]

end Numeral

namespace Text

theorem toList_toString (n : Nat) : (toString n).toList = Double.digitsOf n := by
  rw [Nat.toString_eq_ofList_toDigits, String.toList_ofList, Double.digitsOf]

theorem trim_toString (n : Nat) : trim (toString n) = toString n := by
  apply Bare.trim_eq
  rw [toList_toString]
  apply bare_of_forall
  intro c hc
  exact Instant.isBlank_of_isDigit (Double.isDigit_of_mem_digitsOf hc)

end Text

namespace Choice

variable {choices : List Choice} {choice taken : Choice} {index : Nat}

/-- Which choice a number stands for: the first one that has it for its id, or the one in its place
if there is none. -/
def Numbered (choices : List Choice) (index : Nat) (taken : Choice) : Prop :=
  choices.find? (·.id = toString index) = some taken ∨
    (∀ other ∈ choices, other.id ≠ toString index) ∧ choices[index - 1]? = some taken

theorem validate_toString (hplace : choices[index - 1]? = some choice) (hpos : 0 < index)
    (hindex : index < 2 ^ 64) :
    ∃ taken, Numbered choices index taken ∧ validate choices (toString index) = .ok taken.kept := by
  rw [validate, Text.trim_toString]
  cases hfind : choices.find? (·.id = toString index) with
  | some taken => exact ⟨taken, .inl hfind, by simp only [select?, hfind, Option.some_or]⟩
  | none =>
    have hno : ∀ other ∈ choices, other.id ≠ toString index := by simpa using hfind
    have hread : Numeral.natural64? (toString index).toList = some index := by
      rw [Text.toList_toString, Numeral.natural64?_digitsOf hindex]
    refine ⟨choice, .inr ⟨hno, hplace⟩, ?_⟩
    simp only [select?, hfind, hread, Option.none_or, Option.bind_some, hplace,
      if_neg (Nat.ne_of_gt hpos)]

end Choice

theorem Workflow.mem_choices_prompt {w : Workflow} {s : Step} {c : Context} {error : Option Reason}
    {shown : ShownChoice} : shown ∈ (w.prompt s c error).choices ↔
      0 < shown.index ∧ ∃ choice, s.choices[shown.index - 1]? = some choice ∧
        shown.id = choice.id ∧ shown.labelKey = choice.labelKey := by
  simp only [prompt, List.mem_mapIdx]
  constructor
  · rintro ⟨i, hi, rfl⟩
    exact ⟨Nat.succ_pos i, s.choices[i], List.getElem?_eq_getElem hi, rfl, rfl⟩
  · obtain ⟨index, id, labelKey⟩ := shown
    rintro ⟨hpos, choice, hchoice, rfl, rfl⟩
    obtain ⟨hi, hchoice⟩ := List.getElem?_eq_some_iff.1 hchoice
    exact ⟨index - 1, hi, by rw [hchoice, Nat.sub_add_cancel hpos]⟩

namespace StepResult

def prompt? : StepResult → Option Prompt
  | .awaitingInput prompt _ => some prompt
  | .validationError _ prompt _ => some prompt
  | .serviceError _ _ => none
  | .completed _ _ _ => none

end StepResult

namespace Engine

/-- The contexts reached and left with a prompt: by a start, by an input, or on the way back. The
version is the store's affair. -/
inductive Offers (e : Engine H) : Context → Prompt → Prop
  | started {id : String} {now : Instant} {session : SessionRef} {log : CallLog H} {c : Context}
      {r : StepResult} {prompt : Prompt}
      (h : After (e.start id now session) log (.done (.ok (c, r))))
      (hprompt : r.prompt? = some prompt) : Offers e c prompt
  | answered {c c' : Context} {input : String} {session : SessionRef} {log : CallLog H}
      {r : StepResult} {prompt : Prompt} (hc : e.Reached c)
      (h : After (e.processInput c input session) log (.done (.ok (c', r))))
      (hprompt : r.prompt? = some prompt) : Offers e c' prompt
  | wentBack {c c' : Context} {prompt : Prompt} (hc : e.Reached c)
      (h : e.goBack c = .ok (c', .moved prompt)) : Offers e c' prompt
  | stamped {c : Context} {prompt : Prompt} (h : Offers e c prompt) (version : Nat) :
      Offers e { c with version } prompt

variable {e : Engine H} {w : Workflow} {input : String} {session : SessionRef} {s : Step}
  {c c' k : Context} {st : Stage} {budget : Nat} {log : CallLog H} {r : StepResult}

theorem Ends.prompts (h : Ends e w input session budget [] k st log (.ok (c', r)))
    (hst : st.Stands w) (hk : k.Within w) {prompt : Prompt} (hprompt : r.prompt? = some prompt) :
    ∃ s error, c'.StandsAt w s ∧ prompt = w.prompt s c' error := by
  obtain ⟨events, f, hwalk, -, -, hresult⟩ := h.of_ok
  obtain ⟨hfinish, -⟩ := hwalk.stands hst hk
  cases f with
  | waiting s c =>
    cases hresult
    cases hprompt
    exact ⟨s, none, hfinish, rfl⟩
  | refused reason s c =>
    cases hresult
    cases hprompt
    exact ⟨s, some reason, hfinish, rfl⟩
  | failed stepId failure =>
    cases hresult
    cases hprompt
  | completed c =>
    cases hresult
    cases hprompt
  | broken err => cases hresult

theorem Offers.prompt_eq {prompt : Prompt} (h : e.Offers c prompt) (hbuilt : e.registry.Built) :
    ∃ w s error, e.locate c = .ok (w, s) ∧ prompt = w.prompt s c error := by
  -- Each call leaves the context standing at the step whose prompt it shows.
  induction h with
  | @started id now session log c r prompt h hprompt =>
    obtain ⟨w, hget⟩ := exists_get? h
    have hget' : e.registry.get? w.id = some w := by rwa [Registry.get?_id hget]
    have hsound := hbuilt.sound w (List.mem_of_find?_eq_some hget)
    obtain ⟨s, hs⟩ := Option.isSome_iff_exists.1 hsound.start
    have hstart := Context.start_within now hs
    obtain ⟨s, error, hstands, rfl⟩ := ((after_start_iff hget).1 h).prompts hstart hstart hprompt
    exact ⟨w, s, error, locate_standsAt hget' hstands, rfl⟩
  | @answered c c' input session log r prompt hc h hprompt =>
    rcases hc.ready_of_built hbuilt with hidle | ⟨w, hget, hwithin⟩
    · exact absurd hidle (workflowId_ne_none_of_processInput h)
    · obtain ⟨s, hs⟩ := exists_standsAt hwithin
      have hends := (after_processInput_iff (locate_standsAt hget hs)).1 h
      obtain ⟨s', error, hstands, rfl⟩ := hends.prompts hs hwithin hprompt
      exact ⟨w, s', error, locate_standsAt hget hstands, rfl⟩
  | @wentBack c c' prompt hc h =>
    rcases hc.ready_of_built hbuilt with hidle | ⟨w, hget, hwithin⟩
    · exact absurd hidle (workflowId_ne_none_of_goBack h)
    · obtain ⟨s, hs⟩ := exists_standsAt hwithin
      obtain ⟨target, hstands, rfl⟩ := (goBack_standsAt hget hs h).2 prompt rfl
      exact ⟨w, target, none, locate_standsAt hget hstands, rfl⟩
  | stamped h version ih => exact ih

theorem Move.not_refused {value : Value} {events : List (Event H)} {reason : Reason} {s' : Step}
    (haccepts : s.accepted? e.patterns input = some value) :
    ¬ Move e w input session (.resuming s c) events (.ended (.refused reason s' c')) := by
  intro h
  generalize hst' : Stage.ended (.refused reason s' c') = st' at h
  cases h with
  | kindless hkind => cases hst'
  | refused hkind hinteractive hcheck =>
    rw [accepted?_of_kindOf hkind hinteractive, hcheck] at haccepts
    cases haccepts
  | accepted hkind hinteractive hcheck hacts => exact hacts.ne_refused hst'.symm
  | resumed hkind hinteractive hacts => exact hacts.ne_refused hst'.symm

/-- A turn that takes its input for an answer does not end with a complaint about it. -/
theorem not_validationError {value : Value} {reason : Reason} {prompt : Prompt} {attempt : UInt32}
    (hlocate : e.locate c = .ok (w, s)) (haccepts : s.accepted? e.patterns input = some value) :
    ¬ After (e.processInput c input session) log
      (.done (.ok (c', .validationError reason prompt attempt))) := by
  intro h
  obtain ⟨events, f, hwalk, -, -, hresult⟩ := ((after_processInput_iff hlocate).1 h).of_ok
  cases f with
  | refused reason' s' c'' =>
    rcases hwalk.last with ⟨-, hst⟩ | ⟨events₁, events₂, st₁, -, hbefore, hmove⟩
    · cases hst
    · -- Only the stage that the turn begins at is followed by a refusal.
      obtain ⟨-, -, c₁, rfl, -⟩ := hmove.of_refused rfl
      rcases hbefore.last with ⟨-, hst⟩ | ⟨_, _, _, -, -, hto⟩
      · cases hst
        exact Move.not_refused haccepts hmove
      · exact Move.not_to_resuming hto
  | waiting s c => cases hresult
  | failed stepId failure => cases hresult
  | completed c => cases hresult
  | broken err => cases hresult

/-- A turn with an accepted answer does what the step does with the answer among the variables. -/
theorem processInput_eq_act {value : Value} (hlocate : e.locate c = .ok (w, s))
    (haccepts : s.accepted? e.patterns input = some value) :
    e.processInput c input session =
      e.act w input session s s.action (e.accepted s c value) c (e.goOn w input session c) := by
  obtain ⟨kind, hkind, htaken⟩ := Option.bind_eq_some_iff.1 haccepts
  split at htaken
  · rename_i hinteractive
    have hcheck : s.check e.patterns kind input = .ok value := by
      cases hcheck : s.check e.patterns kind input with
      | ok value' => rw [hcheck] at htaken; cases htaken; rfl
      | error reason => rw [hcheck] at htaken; cases htaken
    rw [processInput_eq_rest hlocate]
    simp only [rest, Workflow.kindOf, hkind, hinteractive, if_true, hcheck]
    rfl
  · cases htaken

/-- The number of a choice is the number it is taken for. Every prompt offered with a context is
that of the step the context is at. At a step with choices, the number of a choice shown is
accepted, and the value of the choice that it stands for is kept under the id of the step: with it
among the variables the step goes on, no complaint follows, and it is among the variables left as
long as no action called since writes it and no call fails at the step. The number stands for the
choice shown unless it is the id of a choice, and then for the first one with this id. -/
theorem shown_number_taken (hbuilt : e.registry.Built) :
    (∀ c prompt, e.Offers c prompt →
      ∃ w s error, e.locate c = .ok (w, s) ∧ prompt = w.prompt s c error) ∧
    ∀ c w s error shown session, e.locate c = .ok (w, s) → s.kind = some .choice →
      shown ∈ (w.prompt s c error).choices → shown.index < 2 ^ 64 →
      ∃ choice taken, s.choices[shown.index - 1]? = some choice ∧ shown.id = choice.id ∧
        shown.labelKey = choice.labelKey ∧ Choice.Numbered s.choices shown.index taken ∧
        (e.accepted s c taken.kept).vars.get? s.id = some taken.kept ∧
        e.processInput c (toString shown.index) session =
          e.act w (toString shown.index) session s s.action (e.accepted s c taken.kept) c
            (e.goOn w (toString shown.index) session c) ∧
        ∀ log c' r, After (e.processInput c (toString shown.index) session) log
            (.done (.ok (c', r))) →
          (∀ reason prompt attempt, r ≠ .validationError reason prompt attempt) ∧
          ∃ events, e.Happened w (toString shown.index) session (.resuming s c) log events ∧
            ((∀ event ∈ events, ¬ event.Writes s.id) → failsAt s.id r = false →
              (varsLeft c' r).get? s.id = some taken.kept) := by
  refine ⟨fun c prompt h => h.prompt_eq hbuilt, ?_⟩
  intro c w s error shown session hlocate hkind hshown hindex
  obtain ⟨hpos, choice, hplace, hid, hlabelKey⟩ := Workflow.mem_choices_prompt.1 hshown
  obtain ⟨taken, hnumbered, hvalidate⟩ := Choice.validate_toString hplace hpos hindex
  have haccepts : s.accepted? e.patterns (toString shown.index) = some taken.kept := by
    have hcheck : s.check e.patterns .choice (toString shown.index) = .ok taken.kept := by
      rw [Step.check, if_pos rfl, hvalidate]
    simp only [Step.accepted?, hkind, Option.bind_some, StepKind.isInteractive, if_true, hcheck]
    rfl
  refine ⟨choice, taken, hplace, hid, hlabelKey, hnumbered, ?_,
    processInput_eq_act hlocate haccepts, fun log c' r h => ⟨?_, ?_⟩⟩
  · simp [accepted, Context.visit, Context.set, Record.get?_insert]
  · rintro reason prompt attempt rfl
    exact not_validationError hlocate haccepts h
  · obtain ⟨events, hevents⟩ := ((after_processInput_iff hlocate).1 h).happened
    exact ⟨events, hevents, fun hunwritten hfails =>
      processInput_keeps_answer hlocate h hevents hunwritten haccepts hfails⟩

def survey : Workflow where
  id := "survey"
  startStepId := "rating"
  steps := [
    { id := "rating", kind := some .choice,
      choices := [⟨"2", "survey.two", none⟩, ⟨"1", "survey.one", none⟩,
        ⟨"skip", "survey.skip", some (.number (.integer 0))⟩],
      next := some (.fixed "comment") },
    { id := "comment", kind := some .input }]

def surveyor : Engine Unit where
  registry := ⟨[survey]⟩
  actions := {}

def askedRating : Context where
  workflowId := some "survey"
  currentStepId := some "rating"
  history := ["rating"]
  startedAt := some ⟨0, 0⟩

def askedComment (rating : Value) : Context :=
  { askedRating with
    currentStepId := some "comment"
    vars := [("rating", rating)]
    history := ["rating", "comment"] }

/-- The third number takes the choice shown with it. -/
theorem shown_number_taken_skip : surveyor.registry.Built ∧
    surveyor.Offers askedRating (survey.prompt survey.steps[0] askedRating none) ∧
    surveyor.locate askedRating = .ok (survey, survey.steps[0]) ∧
    survey.steps[0].kind = some .choice ∧
    ⟨3, "skip", "survey.skip"⟩ ∈ (survey.prompt survey.steps[0] askedRating none).choices ∧
    3 < 2 ^ 64 ∧ ∃ taken, Choice.Numbered survey.steps[0].choices 3 taken ∧
      taken.kept = .number (.integer 0) ∧
      surveyor.processInput askedRating (toString 3) ⟨"user", none⟩ =
        .done (.ok (askedComment (.number (.integer 0)),
          .awaitingInput (survey.prompt survey.steps[1]
            (askedComment (.number (.integer 0))) none) [])) := by
  have hbuilt : surveyor.registry.Built := Registry.built_singleton (by decide +kernel)
  have hstart : After (surveyor.start "survey" ⟨0, 0⟩ ⟨"user", none⟩) []
      (.done (.ok (askedRating,
        .awaitingInput (survey.prompt survey.steps[0] askedRating none) []))) := .nil _
  have hshown : ⟨3, "skip", "survey.skip"⟩ ∈
      (survey.prompt survey.steps[0] askedRating none).choices := by decide
  obtain ⟨choice, taken, hplace, -, -, hnumbered, -, hturn, -⟩ :=
    (shown_number_taken hbuilt).2 askedRating survey survey.steps[0] none _ ⟨"user", none⟩ rfl rfl
      hshown (by decide)
  have htaken : taken = ⟨"skip", "survey.skip", some (.number (.integer 0))⟩ := by
    rcases hnumbered with hid | ⟨-, hthird⟩
    · have hnone : survey.steps[0].choices.find? (·.id = toString 3) = none := by decide
      exact absurd (hnone.symm.trans hid) (by simp)
    · exact (Option.some.inj hthird).symm
  subst htaken
  exact ⟨hbuilt, .started hstart rfl, rfl, rfl, hshown, by decide, _, hnumbered, rfl, hturn⟩

/-- The first number does not: it is the id of the second choice, and its value is kept. -/
theorem first_number_not_taken : surveyor.registry.Built ∧
    surveyor.Offers askedRating (survey.prompt survey.steps[0] askedRating none) ∧
    surveyor.locate askedRating = .ok (survey, survey.steps[0]) ∧
    survey.steps[0].kind = some .choice ∧
    ⟨1, "2", "survey.two"⟩ ∈ (survey.prompt survey.steps[0] askedRating none).choices ∧
    surveyor.processInput askedRating (toString 1) ⟨"user", none⟩ =
      .done (.ok (askedComment (.text "1"),
        .awaitingInput (survey.prompt survey.steps[1] (askedComment (.text "1")) none) [])) ∧
    (askedComment (.text "1")).vars.get? "rating" ≠
      survey.steps[0].choices.head?.map Choice.kept := by
  have hbuilt : surveyor.registry.Built := Registry.built_singleton (by decide +kernel)
  have hstart : After (surveyor.start "survey" ⟨0, 0⟩ ⟨"user", none⟩) []
      (.done (.ok (askedRating,
        .awaitingInput (survey.prompt survey.steps[0] askedRating none) []))) := .nil _
  have haccepts : survey.steps[0].accepted? surveyor.patterns (toString 1) = some (.text "1") := by
    have hselect : Choice.select? survey.steps[0].choices (toString 1) =
        some ⟨"1", "survey.one", none⟩ := by decide
    have hvalidate : Choice.validate survey.steps[0].choices (toString 1) = .ok (.text "1") := by
      rw [Choice.validate, Text.trim_toString, hselect]
      rfl
    have hcheck : survey.steps[0].check surveyor.patterns .choice (toString 1) =
        .ok (.text "1") := hvalidate
    exact congrArg Except.toOption hcheck
  have hlocate : surveyor.locate askedRating = .ok (survey, survey.steps[0]) := rfl
  exact ⟨hbuilt, .started hstart rfl, hlocate, rfl, by decide,
    (processInput_eq_act hlocate haccepts).trans rfl, by decide⟩

end Engine

end Dialogue
