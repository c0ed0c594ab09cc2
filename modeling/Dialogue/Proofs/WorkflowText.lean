import Dialogue.Proofs.ConditionGrammar
import Dialogue.Proofs.Fields
import Dialogue.Proofs.Interpolation
import Dialogue.Workflow.Document

namespace Dialogue

namespace Template

theorem parse_reference {path : String} (h : Path.Dotted path.toList) :
    parse (toText (.reference path)) = .reference path := by
  have hsource := Placeholder.mk Text.blank_space h Text.blank_space
  have htext : (toText (.reference path)).toList =
      '\x7b' :: '\x7b' :: ([' '] ++ (path.toList ++ ([' '] ++ ['\x7d', '\x7d']))) := by
    simp [toText]
  rw [parse_eq_reference_iff, htext, hsource.bare.trimChars_eq]
  exact hsource

theorem parse_toText_parse (raw : String) : parse (parse raw).toText = parse raw := by
  cases hparse : parse raw with
  | literal text =>
    obtain rfl := eq_of_parse_literal hparse
    rw [toText, hparse]
  | reference path => exact parse_reference (parse_eq_reference_iff.1 hparse).dotted

end Template

namespace Value

def entries : Value → Record
  | .object fs => fs
  | _ => []

def fields (v : Value) : Fields := .ofRecord v.entries

theorem proper_ofNat {n : Nat} (hn : n ≤ maxNatural64) : (ofNat n).Proper := by
  have hbound : n ≤ 2 ^ 64 - 1 := hn
  change Number.IsIntegerRange n
  rw [Number.isIntegerRange_iff]
  omega

theorem proper_ofExtended (x : Extended) : (ofExtended x).Proper := by
  cases x <;> trivial

end Value

theorem RuleKind.ofWord_word (kind : RuleKind) : ofWord kind.word = kind := by
  cases kind <;> decide

theorem StepKind.ofWord?_word (kind : StepKind) : ofWord? kind.word = some kind := by
  cases kind <;> decide

namespace Document

theorem gives_natural? (bound : Nat) : Gives (natural? bound) (· ≤ bound) := by
  intro v n _ h
  cases v with
  | number m =>
    cases m with
    | integer m =>
      simp only [ofValue, natural?] at h
      split at h
      · cases h
        omega
      · cases h
    | double d => cases h
  | _ => cases h

theorem gives_double? : Gives double? fun x => ∃ d, x = .finite d := by
  intro v x hv h
  cases v with
  | number n =>
    cases h
    cases n with
    | integer n =>
      have hn : Number.IsIntegerRange n := hv
      rw [Number.isIntegerRange_iff] at hn
      exact Double.exists_ofInt (by omega)
    | double d => exact ⟨d, rfl⟩
  | _ => cases h

theorem gives_present_toValue? :
    Gives (Fields.present toValue?) fun o => ∀ v ∈ o, v.Proper ∧ v ≠ .null := by
  intro v o hv h
  simp only [Fields.present] at h
  split at h
  · cases h
    simp
  · rename_i habsent
    rw [toValue?_ofValue hv] at h
    cases h
    rintro v' ⟨⟩
    refine ⟨hv, ?_⟩
    rintro rfl
    exact habsent rfl

theorem double?_ofExtended {x : Extended} (hx : ∃ d, x = .finite d) :
    (ofValue (Value.ofExtended x)).isAbsent = false ∧
      double? (ofValue (Value.ofExtended x)) = some x := by
  obtain ⟨d, rfl⟩ := hx
  exact ⟨rfl, rfl⟩

theorem isAbsent_ofValue {v : Value} (hv : v ≠ .null) : (ofValue v).isAbsent = false := by
  cases v with
  | null => exact absurd rfl hv
  | _ => rfl

end Document

open Document

namespace Rule

/-- Whether a rule is one that can be written: its lengths have 64 bits, its bounds are finite. -/
structure Proper (r : Rule) : Prop where
  minLength : ∀ n ∈ r.minLength, n ≤ maxNatural64
  maxLength : ∀ n ∈ r.maxLength, n ≤ maxNatural64
  min : ∀ x ∈ r.min, ∃ d, x = .finite d
  max : ∀ x ∈ r.max, ∃ d, x = .finite d

theorem gives_ofDocument? : Gives Rule.ofDocument? Proper := by
  intro v r hv h
  simp only [ofDocument?, Option.bind_eq_bind, Option.bind_eq_some_iff] at h
  obtain ⟨fs, hfs, required, -, kind, -, minLength, hminLength, maxLength, hmaxLength, min, hmin,
    max, hmax, pattern, -, hr⟩ := h
  have hproper := Fields.proper_of? hv hfs
  cases hr
  exact ⟨hproper.optional (gives_natural? _) hminLength,
    hproper.optional (gives_natural? _) hmaxLength, hproper.optional gives_double? hmin,
    hproper.optional gives_double? hmax⟩

variable {r : Rule}

theorem proper_toValue (h : r.Proper) : r.toValue.Proper := by
  refine Value.proper_ofList fun field hfield => ?_
  simp only [List.mem_append, List.mem_cons, List.not_mem_nil, or_false, Value.mem_field?] at hfield
  rcases hfield with (((((rfl | rfl) | ⟨n, hn, rfl⟩) | ⟨n, hn, rfl⟩) | ⟨x, hx, rfl⟩) |
    ⟨x, hx, rfl⟩) | ⟨p, hp, rfl⟩
  · trivial
  · trivial
  · exact Value.proper_ofNat (h.minLength n hn)
  · exact Value.proper_ofNat (h.maxLength n hn)
  · exact Value.proper_ofExtended x
  · exact Value.proper_ofExtended x
  · trivial

theorem ofDocument?_toValue (h : r.Proper) : ofDocument? (ofValue r.toValue) = some r := by
  have hfields : Fields.of? ["required", "kind", "minLength", "maxLength", "min", "max", "pattern"]
      (ofValue r.toValue) = some r.toValue.fields := Fields.of?_object _ (Record.sorted_ofList _)
  have hrequired : r.toValue.fields.withDefault "required" true bool? = some r.required :=
    Fields.withDefault_ofRecord (v := .bool r.required) (by simp [toValue, Value.entries]) rfl
  have hkind : r.toValue.fields.withDefault "kind" .text RuleKind.ofDocument? = some r.kind :=
    Fields.withDefault_ofRecord (v := .text r.kind.word) (by simp [toValue, Value.entries])
      (congrArg some (RuleKind.ofWord_word r.kind))
  have hminLength : r.toValue.fields.optional "minLength" (natural? maxNatural64) =
      some r.minLength :=
    Fields.optional_ofRecord (f := Value.ofNat) (by simp [toValue, Value.entries])
      fun n hn => ⟨rfl, Context.natural?_integer (h.minLength n hn)⟩
  have hmaxLength : r.toValue.fields.optional "maxLength" (natural? maxNatural64) =
      some r.maxLength :=
    Fields.optional_ofRecord (f := Value.ofNat) (by simp [toValue, Value.entries])
      fun n hn => ⟨rfl, Context.natural?_integer (h.maxLength n hn)⟩
  have hmin : r.toValue.fields.optional "min" double? = some r.min :=
    Fields.optional_ofRecord (f := Value.ofExtended) (by simp [toValue, Value.entries])
      fun x hx => double?_ofExtended (h.min x hx)
  have hmax : r.toValue.fields.optional "max" double? = some r.max :=
    Fields.optional_ofRecord (f := Value.ofExtended) (by simp [toValue, Value.entries])
      fun x hx => double?_ofExtended (h.max x hx)
  have hpattern : r.toValue.fields.optional "pattern" text? = some r.pattern :=
    Fields.optional_ofRecord (f := Value.text) (by simp [toValue, Value.entries])
      fun p _ => ⟨rfl, rfl⟩
  simp only [ofDocument?, hfields, hrequired, hkind, hminLength, hmaxLength, hmin, hmax, hpattern,
    Option.bind_eq_bind, Option.bind_some]

end Rule

namespace Choice

/-- Whether a choice is one that can be written: its value is a proper one, and not null. -/
structure Proper (c : Choice) : Prop where
  value : ∀ v ∈ c.value, v.Proper ∧ v ≠ .null

theorem gives_ofDocument? : Gives Choice.ofDocument? Proper := by
  intro v c hv h
  simp only [ofDocument?, Option.bind_eq_bind, Option.bind_eq_some_iff] at h
  obtain ⟨fs, hfs, id, -, labelKey, -, value, hvalue, hc⟩ := h
  cases hc
  exact ⟨(Fields.proper_of? hv hfs).withDefault gives_present_toValue? (by simp) hvalue⟩

variable {c : Choice}

theorem proper_toValue (h : c.Proper) : c.toValue.Proper := by
  refine Value.proper_ofList fun field hfield => ?_
  simp only [List.mem_append, List.mem_cons, List.not_mem_nil, or_false, Value.mem_field?] at hfield
  rcases hfield with (rfl | rfl) | ⟨v, hv, rfl⟩
  · trivial
  · trivial
  · exact (h.value v hv).1

theorem ofDocument?_toValue (h : c.Proper) : ofDocument? (ofValue c.toValue) = some c := by
  have hfields : Fields.of? ["id", "labelKey", "value"] (ofValue c.toValue) =
      some c.toValue.fields := Fields.of?_object _ (Record.sorted_ofList _)
  have hid : c.toValue.fields.required "id" text? = some c.id :=
    Fields.required_ofRecord (v := .text c.id) (by simp [toValue, Value.entries]) rfl
  have hlabelKey : c.toValue.fields.required "labelKey" text? = some c.labelKey :=
    Fields.required_ofRecord (v := .text c.labelKey) (by simp [toValue, Value.entries]) rfl
  have hvalue : c.toValue.fields.optionalDefault "value" toValue? = some c.value :=
    Fields.optionalDefault_ofRecord (f := fun v => v) (by simp [toValue, Value.entries])
      fun v hv => ⟨isAbsent_ofValue (h.value v hv).2, toValue?_ofValue (h.value v hv).1⟩
  simp only [ofDocument?, hfields, hid, hlabelKey, hvalue, Option.bind_eq_bind, Option.bind_some]

end Choice

namespace Branch

theorem proper_toValue (b : Branch) : b.toValue.Proper := by
  refine Value.proper_ofList fun field hfield => ?_
  simp only [List.mem_append, List.mem_singleton, Value.mem_field?] at hfield
  rcases hfield with ⟨text, -, rfl⟩ | rfl
  · trivial
  · trivial

theorem ofDocument?_toValue (b : Branch) : ofDocument? (ofValue b.toValue) = some b := by
  have hfields : Fields.of? ["when", "goto"] (ofValue b.toValue) = some b.toValue.fields :=
    Fields.of?_object _ (Record.sorted_ofList _)
  have hcondition : b.toValue.fields.optionalDefault "when" strictText? = some b.condition :=
    Fields.optionalDefault_ofRecord (f := Value.text) (by simp [toValue, Value.entries])
      fun text _ => ⟨rfl, rfl⟩
  have htarget : b.toValue.fields.required "goto" strictText? = some b.target :=
    Fields.required_ofRecord (v := .text b.target) (by simp [toValue, Value.entries]) rfl
  simp only [ofDocument?, hfields, hcondition, htarget, Option.bind_eq_bind, Option.bind_some]

end Branch

namespace Transition

theorem proper_toValue (t : Transition) : t.toValue.Proper := by
  cases t with
  | fixed target => trivial
  | branches bs => exact Value.properItems_iff.2 (List.forall_mem_map.2 fun b _ => b.proper_toValue)

theorem ofDocument?_toValue (t : Transition) : ofDocument? (ofValue t.toValue) = some t := by
  cases t with
  | fixed target => rfl
  | branches bs =>
    have hread : listOf? Branch.ofDocument? (ofValue (.list (bs.map Branch.toValue))) = some bs :=
      listOf?_map fun b _ => b.ofDocument?_toValue
    exact congrArg (Option.map Transition.branches) hread

theorem isAbsent_toValue (t : Transition) : (ofValue t.toValue).isAbsent = false := by
  cases t <;> rfl

end Transition

namespace Step

theorem putParam_eq_put (name : String) (t : Template) (ps : List (String × Template)) :
    putParam name t ps = Entries.put name t ps := by
  induction ps with
  | nil => rfl
  | cons p ps ih =>
    obtain ⟨k, u⟩ := p
    rw [putParam, Entries.put, ih]

def param? (entry : Document × Document) : Option (String × Template) := do
  let name ← entry.1.text?
  let text ← entry.2.text?
  some (name, Template.parse text)

theorem params?_eq (d : Document) : params? d =
    d.entries?.bind fun entries => (entries.mapM param?).map (Entries.overlay []) := by
  simp only [params?, putParam_eq_put, Option.map_eq_bind]
  rfl

/-- Whether parameters are such as are read: in the order of their names, and with templates that
are read back from their texts. -/
structure ProperParams (ps : List (String × Template)) : Prop where
  sorted : Sorted ps
  template : ∀ p ∈ ps, Template.parse p.2.toText = p.2

theorem properParams_nil : ProperParams [] := ⟨List.Pairwise.nil, by simp⟩

theorem gives_params? : Gives params? ProperParams := by
  intro v ps _ h
  rw [params?_eq] at h
  obtain ⟨entries, -, h⟩ := Option.bind_eq_some_iff.1 h
  obtain ⟨pairs, hpairs, rfl⟩ := Option.map_eq_some_iff.1 h
  have htemplate : ∀ p ∈ pairs, Template.parse p.2.toText = p.2 := by
    refine forall_of_mapM (fun entry _ p hp => ?_) hpairs
    simp only [param?, Option.bind_eq_bind, Option.bind_eq_some_iff] at hp
    obtain ⟨name, -, text, -, heq⟩ := hp
    cases heq
    exact Template.parse_toText_parse text
  exact ⟨Entries.sorted_overlay .nil, fun p hp =>
    htemplate p ((Entries.mem_overlay hp).resolve_left List.not_mem_nil)⟩

def paramsValue (ps : List (String × Template)) : Value :=
  .object (ps.map fun p => (p.1, .text p.2.toText))

variable {ps : List (String × Template)}

theorem proper_paramsValue (h : ProperParams ps) : (paramsValue ps).Proper := by
  refine ⟨?_, Value.properFields_iff.2 (List.forall_mem_map.2 fun p _ => trivial)⟩
  rw [List.map_map]
  exact h.sorted

theorem params?_paramsValue (h : ProperParams ps) :
    params? (ofValue (paramsValue ps)) = some ps := by
  have hpairs : (ps.map fun p => (Document.text p.1, Document.text p.2.toText)).mapM param? =
      some ps := mapM_map fun p hp => congrArg (fun t => some (p.1, t)) (h.template p hp)
  rw [params?_eq, paramsValue, ofValue, entries?, Option.bind_some, ofFields_eq_map, List.map_map]
  exact (congrArg _ hpairs).trans (congrArg some (Entries.overlay_eq_append h.sorted))

structure Proper (s : Step) : Prop where
  validation : ∀ r ∈ s.validation, r.Proper
  choices : ∀ c ∈ s.choices, c.Proper
  params : ProperParams s.params

theorem gives_ofDocument? : Gives Step.ofDocument? Proper := by
  intro v s hv h
  obtain ⟨fs, hfs, h⟩ := Option.bind_eq_some_iff.1 h
  obtain ⟨id, -, h⟩ := Option.bind_eq_some_iff.1 h
  obtain ⟨kind, -, h⟩ := Option.bind_eq_some_iff.1 h
  obtain ⟨promptKey, -, h⟩ := Option.bind_eq_some_iff.1 h
  obtain ⟨validation, hvalidation, h⟩ := Option.bind_eq_some_iff.1 h
  obtain ⟨choices, hchoices, h⟩ := Option.bind_eq_some_iff.1 h
  obtain ⟨action, -, h⟩ := Option.bind_eq_some_iff.1 h
  obtain ⟨params, hparams, h⟩ := Option.bind_eq_some_iff.1 h
  obtain ⟨next, -, h⟩ := Option.bind_eq_some_iff.1 h
  obtain ⟨onError, -, h⟩ := Option.bind_eq_some_iff.1 h
  obtain ⟨allowBack, -, h⟩ := Option.bind_eq_some_iff.1 h
  obtain ⟨allowSystemCommands, -, h⟩ := Option.bind_eq_some_iff.1 h
  obtain ⟨pause, -, h⟩ := Option.bind_eq_some_iff.1 h
  have hproper := Fields.proper_of? hv hfs
  cases h
  exact ⟨hproper.optionalDefault Rule.gives_ofDocument? hvalidation,
    hproper.withDefault Choice.gives_ofDocument?.listOf? (by simp) hchoices,
    hproper.withDefault gives_params? properParams_nil hparams⟩

variable {s : Step}

theorem proper_toValue (h : s.Proper) : s.toValue.Proper := by
  refine Value.proper_ofList fun field hfield => ?_
  simp only [List.mem_append, List.mem_cons, List.not_mem_nil, or_false, Value.mem_field?,
    List.mem_ite_nil_left] at hfield
  rcases hfield with ((((((((rfl | ⟨kind, -, rfl⟩) | rfl) | ⟨r, hr, rfl⟩) | ⟨-, rfl⟩) |
    ⟨action, -, rfl⟩) | ⟨-, rfl⟩) | ⟨t, -, rfl⟩) | ⟨t, -, rfl⟩) | rfl | rfl | rfl
  · trivial
  · trivial
  · trivial
  · exact Rule.proper_toValue (h.validation r hr)
  · exact Value.properItems_iff.2
      (List.forall_mem_map.2 fun c hc => Choice.proper_toValue (h.choices c hc))
  · trivial
  · exact proper_paramsValue h.params
  · exact t.proper_toValue
  · exact t.proper_toValue
  · trivial
  · trivial
  · trivial

theorem ofDocument?_toValue (h : s.Proper) : ofDocument? (ofValue s.toValue) = some s := by
  have hfields : Fields.of? fieldNames (ofValue s.toValue) = some s.toValue.fields :=
    Fields.of?_object _ (Record.sorted_ofList _)
  have hid : s.toValue.fields.required "id" text? = some s.id :=
    Fields.required_ofRecord (v := .text s.id) (by simp [toValue, Value.entries]) rfl
  have hkind : s.toValue.fields.optionalDefault "kind" StepKind.ofDocument? = some s.kind :=
    Fields.optionalDefault_ofRecord (f := fun kind : StepKind => .text kind.word)
      (by simp [toValue, Value.entries]) fun kind _ => ⟨rfl, StepKind.ofWord?_word kind⟩
  have hpromptKey : s.toValue.fields.withDefault "promptKey" "" text? = some s.promptKey :=
    Fields.withDefault_ofRecord (v := .text s.promptKey) (by simp [toValue, Value.entries]) rfl
  have hvalidation : s.toValue.fields.optionalDefault "validation" Rule.ofDocument? =
      some s.validation :=
    Fields.optionalDefault_ofRecord (f := Rule.toValue) (by simp [toValue, Value.entries])
      fun r hr => ⟨rfl, Rule.ofDocument?_toValue (h.validation r hr)⟩
  have hchoices : s.toValue.fields.withDefault "choices" [] (listOf? Choice.ofDocument?) =
      some s.choices :=
    Fields.withDefault_nil_ofRecord (v := .list (s.choices.map Choice.toValue))
      (by simp [toValue, Value.entries])
      (listOf?_map fun c hc => Choice.ofDocument?_toValue (h.choices c hc))
  have haction : s.toValue.fields.optionalDefault "action" text? = some s.action :=
    Fields.optionalDefault_ofRecord (f := Value.text) (by simp [toValue, Value.entries])
      fun action _ => ⟨rfl, rfl⟩
  have hparams : s.toValue.fields.withDefault "params" [] params? = some s.params :=
    Fields.withDefault_nil_ofRecord (v := paramsValue s.params)
      (by simp [toValue, Value.entries, paramsValue]) (params?_paramsValue h.params)
  have hnext : s.toValue.fields.optionalDefault "next" Transition.ofDocument? = some s.next :=
    Fields.optionalDefault_ofRecord (f := Transition.toValue) (by simp [toValue, Value.entries])
      fun t _ => ⟨t.isAbsent_toValue, t.ofDocument?_toValue⟩
  have honError : s.toValue.fields.optionalDefault "onError" Transition.ofDocument? =
      some s.onError :=
    Fields.optionalDefault_ofRecord (f := Transition.toValue) (by simp [toValue, Value.entries])
      fun t _ => ⟨t.isAbsent_toValue, t.ofDocument?_toValue⟩
  have hallowBack : s.toValue.fields.withDefault "allowBack" true bool? = some s.allowBack :=
    Fields.withDefault_ofRecord (v := .bool s.allowBack) (by simp [toValue, Value.entries]) rfl
  have hallowSystemCommands : s.toValue.fields.withDefault "allowSystemCommands" true bool? =
      some s.allowSystemCommands :=
    Fields.withDefault_ofRecord (v := .bool s.allowSystemCommands)
      (by simp [toValue, Value.entries]) rfl
  have hpause : s.toValue.fields.withDefault "pause" false bool? = some s.pause :=
    Fields.withDefault_ofRecord (v := .bool s.pause) (by simp [toValue, Value.entries]) rfl
  refine Option.bind_eq_some_iff.2 ⟨_, hfields, ?_⟩
  refine Option.bind_eq_some_iff.2 ⟨_, hid, ?_⟩
  refine Option.bind_eq_some_iff.2 ⟨_, hkind, ?_⟩
  refine Option.bind_eq_some_iff.2 ⟨_, hpromptKey, ?_⟩
  refine Option.bind_eq_some_iff.2 ⟨_, hvalidation, ?_⟩
  refine Option.bind_eq_some_iff.2 ⟨_, hchoices, ?_⟩
  refine Option.bind_eq_some_iff.2 ⟨_, haction, ?_⟩
  refine Option.bind_eq_some_iff.2 ⟨_, hparams, ?_⟩
  refine Option.bind_eq_some_iff.2 ⟨_, hnext, ?_⟩
  refine Option.bind_eq_some_iff.2 ⟨_, honError, ?_⟩
  refine Option.bind_eq_some_iff.2 ⟨_, hallowBack, ?_⟩
  refine Option.bind_eq_some_iff.2 ⟨_, hallowSystemCommands, ?_⟩
  refine Option.bind_eq_some_iff.2 ⟨_, hpause, ?_⟩
  rfl

end Step

namespace Workflow

structure Proper (w : Workflow) : Prop where
  steps : ∀ s ∈ w.steps, s.Proper

theorem gives_ofDocument? : Gives Workflow.ofDocument? Proper := by
  intro v w hv h
  simp only [ofDocument?, Option.bind_eq_bind, Option.bind_eq_some_iff] at h
  obtain ⟨fs, hfs, id, -, startStepId, -, steps, hsteps, showProgress, -, onComplete, -,
    completionPromptKey, -, hw⟩ := h
  have hproper := Fields.proper_of? hv hfs
  cases hw
  exact ⟨hproper.required Step.gives_ofDocument?.listOf? hsteps⟩

variable {v : Value} {w : Workflow}

theorem proper_toValue (h : w.Proper) : w.toValue.Proper := by
  refine Value.proper_ofList fun field hfield => ?_
  simp only [List.mem_append, List.mem_cons, List.not_mem_nil, or_false, Value.mem_field?] at hfield
  rcases hfield with ((rfl | rfl | rfl | rfl) | ⟨hook, -, rfl⟩) | ⟨key, -, rfl⟩
  · trivial
  · trivial
  · exact Value.properItems_iff.2
      (List.forall_mem_map.2 fun s hs => Step.proper_toValue (h.steps s hs))
  · trivial
  · trivial
  · trivial

theorem ofDocument?_toValue (h : w.Proper) : ofDocument? (.ofValue w.toValue) = some w := by
  have hfields : Fields.of? ["id", "startStepId", "steps", "showProgress", "onComplete",
      "completionPromptKey"] (.ofValue w.toValue) = some w.toValue.fields :=
    Fields.of?_object _ (Record.sorted_ofList _)
  have hid : w.toValue.fields.required "id" text? = some w.id :=
    Fields.required_ofRecord (v := .text w.id) (by simp [toValue, Value.entries]) rfl
  have hstartStepId : w.toValue.fields.required "startStepId" text? = some w.startStepId :=
    Fields.required_ofRecord (v := .text w.startStepId) (by simp [toValue, Value.entries]) rfl
  have hsteps : w.toValue.fields.required "steps" (listOf? Step.ofDocument?) = some w.steps :=
    Fields.required_ofRecord (v := .list (w.steps.map Step.toValue))
      (by simp [toValue, Value.entries])
      (listOf?_map fun s hs => Step.ofDocument?_toValue (h.steps s hs))
  have hshowProgress : w.toValue.fields.withDefault "showProgress" false bool? =
      some w.showProgress :=
    Fields.withDefault_ofRecord (v := .bool w.showProgress) (by simp [toValue, Value.entries]) rfl
  have honComplete : w.toValue.fields.optional "onComplete" text? = some w.onComplete :=
    Fields.optional_ofRecord (f := Value.text) (by simp [toValue, Value.entries])
      fun hook _ => ⟨rfl, rfl⟩
  have hcompletionPromptKey : w.toValue.fields.optional "completionPromptKey" text? =
      some w.completionPromptKey :=
    Fields.optional_ofRecord (f := Value.text) (by simp [toValue, Value.entries])
      fun key _ => ⟨rfl, rfl⟩
  simp only [ofDocument?, hfields, hid, hstartStepId, hsteps, hshowProgress, honComplete,
    hcompletionPromptKey, Option.bind_eq_bind, Option.bind_some]

theorem ofValue_eq_ok_iff : ofValue v = .ok w ↔ ofDocument? (.ofValue v) = some w := by
  rw [ofValue]
  split <;> simp_all

end Workflow

end Dialogue
