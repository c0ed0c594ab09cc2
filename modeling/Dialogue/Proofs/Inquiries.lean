import Dialogue.Proofs.Transcript
import Dialogue.Taxpayer.Action

namespace Dialogue

open Interaction

variable {r : Request} {v : Value} {name : String}

namespace Request

/-- Whether a parameter is given: it is there, and not null. -/
def Given (r : Request) (name : String) (v : Value) : Prop :=
  r.params.get? name = some v ∧ v.isNull = false

theorem Given.param?_eq (h : r.Given name v) : r.param? name = some v := by
  obtain ⟨hget, hnull⟩ := h
  simp [param?, hget, hnull]

/-- A parameter that is given hides the variable of its name, of whatever kind it is. -/
theorem Given.paramText?_eq (h : r.Given name v) : r.paramText? name = v.text? := by
  rw [paramText?, h.param?_eq, Option.bind_some]

end Request

theorem Value.display_of_text? {s : String} (h : v.text? = some s) : v.display = s := by
  cases v with
  | text s' =>
    cases h
    rfl
  | _ => cases h

theorem Inquiry.nonempty_answer (q : Inquiry) : Nonempty q.Answer := by
  cases q with
  | search name => exact ⟨.error ""⟩
  | verify nif => exact ⟨.error ""⟩

namespace TaxpayerAction

/-- The identifier of the only taxpayer that an earlier search found, as the variables have it. -/
def matched? (vars : Record) : Option String := (vars.lookup? "dgi.match.nif").bind Value.text?

/-- What a question about a text is about: the text without blanks at its ends, if anything is
left. -/
def subject? (about : Option String) : Option String :=
  (about.map Text.trim).filter fun s => !s.isEmpty

/-- What an action does that has a subject to ask about, or none: it asks this one question and is
done with the answer, or it fails without asking. -/
inductive Inquires (a : TaxpayerAction) (r : Request) (inquiry : String → Inquiry) :
    Option String → Prop
  | asks {s : String} (outcome : (inquiry s).Answer → Outcome)
      (h : a.run r = .ask (inquiry s) fun x => .done (outcome x)) : Inquires a r inquiry (some s)
  | fails {message : String} (h : a.run r = .done (.error message)) : Inquires a r inquiry none

/-- Whether no question of an action is about another text, whatever is answered. -/
def AsksOnly (a : TaxpayerAction) (r : Request) (inquiry : String → Inquiry) (s : String) : Prop :=
  ∀ log p, After (a.run r) log p → ∀ e ∈ log, e.question = inquiry s

variable {a : TaxpayerAction} {inquiry : String → Inquiry} {subject : Option String} {s : String}

theorem Inquires.asksOnly_iff (hinj : ∀ s t, inquiry s = inquiry t → s = t)
    (h : a.Inquires r inquiry subject) :
    a.AsksOnly r inquiry s ↔ ∀ t, subject = some t → t = s := by
  cases h with
  | fails h =>
    constructor
    · exact fun _ t ht => nomatch ht
    · intro _ log p hrun e he
      rw [h] at hrun
      rw [(after_done_iff.1 hrun).1] at he
      cases he
  | @asks t outcome h =>
    constructor
    · -- Whatever the registry answers, the question itself was asked.
      rintro honly _ ⟨⟩
      obtain ⟨x⟩ := (inquiry t).nonempty_answer
      have hrun : After (a.run r) [⟨inquiry t, x⟩] (.done (outcome x)) := by
        rw [h]
        exact .cons x (.nil _)
      exact hinj _ _ (honly _ _ hrun _ (List.mem_singleton_self _))
    · intro hsubject log p hrun e he
      rw [h] at hrun
      obtain ⟨rfl, -⟩ | ⟨x, rest, rfl, hrest⟩ := after_ask_iff.1 hrun
      · cases he
      · rw [(after_done_iff.1 hrest).1, List.mem_singleton] at he
        rw [he]
        exact congrArg inquiry (hsubject t rfl)

theorem inquires_verify (r : Request) : verify.Inquires r .verify (identifier? r) := by
  cases hsubject : identifier? r with
  | none =>
    have hrun : verify.run r = .done (.error "no taxpayer identifier to verify") := by
      simp only [run, hsubject]
    exact .fails hrun
  | some nif => exact .asks (fun x => x.map verifyReport) (by simp only [run, hsubject])

theorem inquires_search (routes : SearchRoutes) (r : Request) :
    (search routes).Inquires r .search (subject? ((r.paramText? "name").or (some r.rawInput))) := by
  have hname : ((r.paramText? "name").or (some r.rawInput)).map Text.trim =
      some (searchName r) := by
    rw [searchName]
    cases r.paramText? "name" <;> rfl
  rw [subject?, hname]
  by_cases hempty : (searchName r).isEmpty
  · rw [Option.filter_some_neg (by simpa using hempty)]
    exact .fails (by rw [run, if_pos hempty])
  · rw [Option.filter_some_pos (by simpa using hempty)]
    exact .asks (fun x => x.map (searchReport routes)) (by rw [run, if_neg hempty])

theorem eq_trim_of_subject? {about t : String} (h : subject? (some about) = some t) :
    t = Text.trim about :=
  (Option.some.inj (Option.eq_some_of_filter_eq_some h)).symm

/-- When an action passes over a value that is no text and turns to something else, it asks about
no other text than the given one exactly when there is nothing else to turn to. -/
theorem Inquires.asksOnly_given_iff (hinj : ∀ s t, inquiry s = inquiry t → s = t)
    {other : Option String} (h : a.Inquires r inquiry (subject? (v.text?.or other))) :
    a.AsksOnly r inquiry (Text.trim v.display) ↔
      v.text?.isSome ∨ ∀ t, subject? other = some t → t = Text.trim v.display := by
  rw [h.asksOnly_iff hinj]
  cases htext : v.text? with
  | none => simp
  | some s =>
    rw [Value.display_of_text? htext]
    exact iff_of_true (fun t ht => eq_trim_of_subject? ht) (.inl rfl)

/-- What is asked when an identifier or a name is given. Of a text the registry is asked just that,
or nothing if it is blank. A value of any other kind is passed over: the registry is asked about
the identifier of an earlier search, or about what the user wrote. So no other than the given one
is asked about exactly when it is given as a text, or nothing else stands ready to be asked
about. -/
theorem given_inquired (r : Request) (routes : SearchRoutes) (v : Value) :
    (r.Given "nif" v →
      verify.Inquires r .verify (subject? (v.text?.or (matched? r.vars))) ∧
      (verify.AsksOnly r .verify (Text.trim v.display) ↔
        v.text?.isSome ∨ ∀ nif, subject? (matched? r.vars) = some nif →
          nif = Text.trim v.display)) ∧
    (r.Given "name" v →
      (search routes).Inquires r .search (subject? (v.text?.or (some r.rawInput))) ∧
      ((search routes).AsksOnly r .search (Text.trim v.display) ↔
        v.text?.isSome ∨ ∀ written, subject? (some r.rawInput) = some written →
          written = Text.trim v.display)) := by
  constructor
  · intro hgiven
    have hinquires := inquires_verify r
    rw [identifier?, hgiven.paramText?_eq] at hinquires
    exact ⟨hinquires, hinquires.asksOnly_given_iff fun _ _ => Inquiry.verify.inj⟩
  · intro hgiven
    have hinquires := inquires_search routes r
    rw [hgiven.paramText?_eq] at hinquires
    exact ⟨hinquires, hinquires.asksOnly_given_iff fun _ _ => Inquiry.search.inj⟩

/-- A request with an identifier and a name that are numbers, after a search that found somebody
else. -/
def misread : Request where
  workflowId := "identify"
  stepId := "number"
  params := [("name", .number (.integer 75)), ("nif", .number (.integer 7654321))]
  vars := [("dgi", .object [("match", .object [("nif", .text "1234567A")])]),
    ("number", .number (.integer 7654321))]
  rawInput := "7654321"
  session := ⟨"user-1", none⟩

/-- The identifier 7654321 is given, and 1234567A is verified; the name 75 is given, and 7654321 is
searched for. -/
theorem given_inquired_misread :
    misread.Given "nif" (.number (.integer 7654321)) ∧
      verify.Inquires misread .verify (some "1234567A") ∧
      ¬ verify.AsksOnly misread .verify "7654321" ∧
    misread.Given "name" (.number (.integer 75)) ∧
      (search {}).Inquires misread .search (some "7654321") ∧
      ¬ (search {}).AsksOnly misread .search "75" := by
  have hnif : misread.Given "nif" (.number (.integer 7654321)) := ⟨rfl, rfl⟩
  have hname : misread.Given "name" (.number (.integer 75)) := ⟨rfl, rfl⟩
  obtain ⟨hverify, honlyNif⟩ := (given_inquired misread {} (.number (.integer 7654321))).1 hnif
  obtain ⟨hsearch, honlyName⟩ := (given_inquired misread {} (.number (.integer 75))).2 hname
  have hmatched : subject? (matched? misread.vars) = some "1234567A" := by decide +kernel
  have hwritten : subject? (some misread.rawInput) = some "7654321" := by decide +kernel
  have htextNif : Text.trim (Value.number (.integer 7654321)).display = "7654321" := by
    decide +kernel
  have htextName : Text.trim (Value.number (.integer 75)).display = "75" := by decide +kernel
  rw [htextNif] at honlyNif
  rw [htextName] at honlyName
  refine ⟨hnif, hmatched ▸ hverify, fun h => ?_, hname, hwritten ▸ hsearch, fun h => ?_⟩
  · obtain hkind | hsame := honlyNif.1 h
    · cases hkind
    · exact absurd (hsame _ hmatched) (by decide)
  · obtain hkind | hsame := honlyName.1 h
    · cases hkind
    · exact absurd (hsame _ hwritten) (by decide)

end TaxpayerAction

end Dialogue
