import Dialogue.Proofs.WorkflowText

namespace Dialogue

variable {α : Type}

theorem Record.get?_of_mem {r : Record} (hr : Sorted r) {name : String} {v : Value}
    (h : (name, v) ∈ r) : r.get? name = some v := by
  induction r with
  | nil => cases h
  | cons field r ih =>
    obtain ⟨k, w⟩ := field
    obtain ⟨hk, hr⟩ := List.pairwise_cons.1 hr
    rcases List.mem_cons.1 h with heq | h
    · cases heq
      simp [get?]
    · have hlt : k < name := hk name (List.mem_map_of_mem h)
      rw [get?, if_neg (ne_of_gt hlt), ih hr h]

namespace Value

theorem numbers_eq_nil_of_object {fs : List (String × Value)}
    (h : ∀ field ∈ fs, field.2.numbers = []) : (Value.object fs).numbers = [] := by
  induction fs with
  | nil => rfl
  | cons field fs ih =>
    obtain ⟨hfield, hfs⟩ := List.forall_mem_cons.1 h
    have hrest : fieldNumbers fs = [] := ih hfs
    rw [numbers, fieldNumbers, hfield, hrest, List.append_nil]

theorem numbers_eq_nil_of_list {vs : List Value} (h : ∀ v ∈ vs, v.numbers = []) :
    (Value.list vs).numbers = [] := by
  induction vs with
  | nil => rfl
  | cons v vs ih =>
    obtain ⟨hv, hvs⟩ := List.forall_mem_cons.1 h
    have hrest : itemNumbers vs = [] := ih hvs
    rw [numbers, itemNumbers, hv, hrest, List.append_nil]

theorem reread_eq_self {v v' : Value} (hv : v.numbers = []) (h : v.reread = some v') : v' = v := by
  rw [(reread_eq_self_iff v).2 (by simp [hv])] at h
  exact (Option.some.inj h).symm

theorem eq_of_rereadFields {fs fs' : List (String × Value)} (h : rereadFields fs = some fs')
    (heach : ∀ field ∈ fs, ∀ v', field.2.reread = some v' → (field.1, v') ∈ fs' → v' = field.2) :
    fs' = fs := by
  induction fs generalizing fs' with
  | nil =>
    cases h
    rfl
  | cons field fs ih =>
    obtain ⟨k, v⟩ := field
    simp only [rereadFields, Option.bind_eq_bind, Option.bind_eq_some_iff] at h
    obtain ⟨v', hv, rest, hrest, heq⟩ := h
    cases heq
    obtain ⟨hfield, hfields⟩ := List.forall_mem_cons.1 heach
    rw [hfield v' hv (List.mem_cons_self ..), ih hrest fun field hmem v' hv' hin =>
      hfields field hmem v' hv' (List.mem_cons_of_mem _ hin)]

/-- Whether a value is the only one that its own text can be read as if a reader is to take both for
the same. -/
def Discerned (read : Document → Option α) (v : Value) : Prop :=
  ∀ v' a, v.reread = some v' → read (.ofValue v) = some a → read (.ofValue v') = some a → v' = v

variable {read : Document → Option α}

theorem ne_null_of_reread {v v' : Value} (hv : v ≠ .null) (h : v.reread = some v') :
    v' ≠ .null := by
  rintro rfl
  cases v with
  | null => exact hv rfl
  | bool b => cases h
  | text s => cases h
  | number n => cases hn : n.reread <;> simp [reread, hn] at h
  | list vs => cases hvs : rereadItems vs <;> simp [reread, hvs] at h
  | object fs => cases hfs : rereadFields fs <;> simp [reread, hfs] at h

theorem reread_ofNat {n : Nat} {v : Value} (hn : n ≤ maxNatural64)
    (h : (ofNat n).reread = some v) : v = ofNat n := by
  have hrange : Number.IsIntegerRange n := proper_ofNat hn
  rw [ofNat, reread, Reader.reread_integer hrange] at h
  exact (Option.some.inj h).symm

theorem discerned_ofExtended {x : Extended} (hx : ∃ d, x = .finite d) :
    Discerned Document.double? (ofExtended x) := by
  obtain ⟨d, rfl⟩ := hx
  intro v' x hreread hx hx'
  obtain ⟨n, hn, rfl⟩ := Option.map_eq_some_iff.1 hreread
  obtain ⟨d', rfl⟩ := Reader.reread_double hn
  cases hx
  cases hx'
  rfl

theorem discerned_toValue {v : Value} (hv : v.Proper) : Discerned Document.toValue? v := by
  intro v' u hreread hu hu'
  rw [Document.toValue?_ofValue hv] at hu
  rw [Document.toValue?_ofValue (hv.reread hreread)] at hu'
  exact Option.some.inj (hu'.trans hu.symm)

theorem discerned_object {fields : List (String × Value)} {a : α}
    (hread : read (.ofValue (.object (Record.ofList fields))) = some a)
    (heach : ∀ r : Record, Sorted r → read (.ofValue (.object r)) = some a →
      ∀ field ∈ fields, ∀ v, field.2.reread = some v → r.get? field.1 = some v → v = field.2) :
    Discerned read (.object (Record.ofList fields)) := by
  intro v' a' hreread ha ha'
  cases hread.symm.trans ha
  obtain ⟨fs, hfs, rfl⟩ := Option.map_eq_some_iff.1 hreread
  have hsorted : Sorted fs := sorted_rereadFields (Record.sorted_ofList fields) hfs
  refine congrArg Value.object (eq_of_rereadFields hfs fun field hfield v hv hin => ?_)
  exact heach fs hsorted ha' field (Record.mem_ofList hfield) v hv (Record.get?_of_mem hsorted hin)

theorem eq_of_rereadItems {vs vs' : List Value} {as : List α} (h : ∀ v ∈ vs, Discerned read v)
    (hvs : rereadItems vs = some vs') (has : (vs.map .ofValue).mapM read = some as)
    (has' : (vs'.map .ofValue).mapM read = some as) : vs' = vs := by
  induction vs generalizing vs' as with
  | nil =>
    cases hvs
    rfl
  | cons v vs ih =>
    obtain ⟨hv, hrest⟩ := List.forall_mem_cons.1 h
    simp only [rereadItems, Option.bind_eq_bind, Option.bind_eq_some_iff] at hvs
    obtain ⟨v', hreread, vs', hvs, heq⟩ := hvs
    cases heq
    simp only [List.map_cons, List.mapM_cons, Option.bind_eq_bind, Option.bind_eq_some_iff]
      at has has'
    obtain ⟨a, ha, as, has, heq⟩ := has
    cases heq
    obtain ⟨a', ha', as', has', heq⟩ := has'
    cases heq
    rw [hv v' a hreread ha ha', ih hrest hvs has has']

theorem discerned_list {vs : List Value} (h : ∀ v ∈ vs, Discerned read v) :
    Discerned (Document.listOf? read) (.list vs) := by
  intro v' as hreread has has'
  obtain ⟨vs', hvs, rfl⟩ := Option.map_eq_some_iff.1 hreread
  simp only [Document.listOf?, Document.ofValue, Document.items?, Option.bind_some,
    Document.ofValues_eq_map] at has has'
  rw [eq_of_rereadItems h hvs has has']

end Value

namespace Fields

open Document

variable {r : Record} {name : String} {v : Value} {read : Document → Option α} {a default : α}

theorem read_of_withDefault (hget : r.get? name = some v)
    (h : (ofRecord r).withDefault name default read = some a) : read (ofValue v) = some a := by
  simpa [withDefault, find?_ofRecord, hget] using h

/-- A field that may be left out is discerned if what is written there is. -/
theorem eq_of_optionalDefault {o : Option α} {written : Value} (hdiscerned : written.Discerned read)
    (ha : a ∈ o) (hread : (ofValue written).isAbsent = false ∧ read (ofValue written) = some a)
    (hreread : written.reread = some v) (hget : r.get? name = some v)
    (h : (ofRecord r).optionalDefault name read = some o) : v = written := by
  obtain rfl := Option.mem_def.1 ha
  have hnull : v ≠ .null := by
    apply Value.ne_null_of_reread _ hreread
    rintro rfl
    cases hread.1
  have hpresent := read_of_withDefault hget h
  rw [present, if_neg (by simp [isAbsent_ofValue hnull])] at hpresent
  obtain ⟨a', ha', heq⟩ := Option.map_eq_some_iff.1 hpresent
  cases heq
  exact hdiscerned v a hreread hread.2 ha'

theorem eq_of_optional {o : Option α} {written : Value} (hdiscerned : written.Discerned read)
    (ha : a ∈ o) (hread : (ofValue written).isAbsent = false ∧ read (ofValue written) = some a)
    (hreread : written.reread = some v) (hget : r.get? name = some v)
    (h : (ofRecord r).optional name read = some o) : v = written := by
  refine eq_of_optionalDefault hdiscerned ha hread hreread hget ?_
  simpa [optional, optionalDefault, withDefault, find?_ofRecord, hget] using h

end Fields

open Document Value

namespace Rule

variable {r : Rule}

theorem discerned_toValue (h : r.Proper) : Discerned Rule.ofDocument? r.toValue := by
  refine discerned_object (ofDocument?_toValue h) fun fs hsorted hread field hfield v hv hget => ?_
  simp only [ofDocument?, Fields.of?_object _ hsorted, Option.bind_eq_bind, Option.bind_some,
    Option.bind_eq_some_iff] at hread
  obtain ⟨required, -, kind, -, minLength, -, maxLength, -, min, hmin, max, hmax, pattern, -,
    heq⟩ := hread
  cases heq
  simp only [List.mem_append, List.mem_cons, List.not_mem_nil, or_false, Value.mem_field?] at hfield
  rcases hfield with (((((rfl | rfl) | ⟨n, hn, rfl⟩) | ⟨n, hn, rfl⟩) | ⟨x, hx, rfl⟩) |
    ⟨x, hx, rfl⟩) | ⟨p, hp, rfl⟩
  · exact reread_eq_self rfl hv
  · exact reread_eq_self rfl hv
  · exact reread_ofNat (h.minLength n hn) hv
  · exact reread_ofNat (h.maxLength n hn) hv
  · have hx' := h.min x hx
    exact Fields.eq_of_optional (discerned_ofExtended hx') hx (double?_ofExtended hx') hv hget hmin
  · have hx' := h.max x hx
    exact Fields.eq_of_optional (discerned_ofExtended hx') hx (double?_ofExtended hx') hv hget hmax
  · exact reread_eq_self rfl hv

end Rule

namespace Choice

variable {c : Choice}

theorem discerned_toValue (h : c.Proper) : Discerned Choice.ofDocument? c.toValue := by
  refine discerned_object (ofDocument?_toValue h) fun fs hsorted hread field hfield v hv hget => ?_
  simp only [ofDocument?, Fields.of?_object _ hsorted, Option.bind_eq_bind, Option.bind_some,
    Option.bind_eq_some_iff] at hread
  obtain ⟨id, -, labelKey, -, value, hvalue, heq⟩ := hread
  cases heq
  simp only [List.mem_append, List.mem_cons, List.not_mem_nil, or_false, Value.mem_field?] at hfield
  rcases hfield with (rfl | rfl) | ⟨u, hu, rfl⟩
  · exact reread_eq_self rfl hv
  · exact reread_eq_self rfl hv
  · obtain ⟨hproper, hnull⟩ := h.value u hu
    exact Fields.eq_of_optionalDefault (Value.discerned_toValue hproper) hu
      ⟨isAbsent_ofValue hnull, toValue?_ofValue hproper⟩ hv hget hvalue

end Choice

theorem Branch.numbers_toValue (b : Branch) : b.toValue.numbers = [] := by
  refine numbers_eq_nil_of_object fun field hfield => ?_
  have hmem := Record.mem_ofList hfield
  simp only [List.mem_append, List.mem_singleton, Value.mem_field?] at hmem
  rcases hmem with ⟨text, -, rfl⟩ | rfl
  · rfl
  · rfl

theorem Transition.numbers_toValue (t : Transition) : t.toValue.numbers = [] := by
  cases t with
  | fixed target => rfl
  | branches bs =>
    exact numbers_eq_nil_of_list (List.forall_mem_map.2 fun b _ => b.numbers_toValue)

namespace Step

variable {s : Step}

theorem numbers_paramsValue (ps : List (String × Template)) : (paramsValue ps).numbers = [] :=
  numbers_eq_nil_of_object (List.forall_mem_map.2 fun _ _ => rfl)

theorem discerned_toValue (h : s.Proper) : Discerned Step.ofDocument? s.toValue := by
  refine discerned_object (ofDocument?_toValue h) fun fs hsorted hread field hfield v hv hget => ?_
  obtain ⟨fields, hfields, hread⟩ := Option.bind_eq_some_iff.1 hread
  cases (Fields.of?_object _ hsorted).symm.trans hfields
  obtain ⟨id, -, hread⟩ := Option.bind_eq_some_iff.1 hread
  obtain ⟨kind, -, hread⟩ := Option.bind_eq_some_iff.1 hread
  obtain ⟨promptKey, -, hread⟩ := Option.bind_eq_some_iff.1 hread
  obtain ⟨validation, hvalidation, hread⟩ := Option.bind_eq_some_iff.1 hread
  obtain ⟨choices, hchoices, hread⟩ := Option.bind_eq_some_iff.1 hread
  obtain ⟨action, -, hread⟩ := Option.bind_eq_some_iff.1 hread
  obtain ⟨params, -, hread⟩ := Option.bind_eq_some_iff.1 hread
  obtain ⟨next, -, hread⟩ := Option.bind_eq_some_iff.1 hread
  obtain ⟨onError, -, hread⟩ := Option.bind_eq_some_iff.1 hread
  obtain ⟨allowBack, -, hread⟩ := Option.bind_eq_some_iff.1 hread
  obtain ⟨allowSystemCommands, -, hread⟩ := Option.bind_eq_some_iff.1 hread
  obtain ⟨pause, -, heq⟩ := Option.bind_eq_some_iff.1 hread
  cases heq
  -- Only the rule and the choices may hold numbers.
  simp only [List.mem_append, List.mem_cons, List.not_mem_nil, or_false, Value.mem_field?,
    List.mem_ite_nil_left] at hfield
  rcases hfield with ((((((((rfl | ⟨kind, -, rfl⟩) | rfl) | ⟨r, hr, rfl⟩) | ⟨-, rfl⟩) |
    ⟨action, -, rfl⟩) | ⟨-, rfl⟩) | ⟨t, -, rfl⟩) | ⟨t, -, rfl⟩) | rfl | rfl | rfl
  · exact reread_eq_self rfl hv
  · exact reread_eq_self rfl hv
  · exact reread_eq_self rfl hv
  · have hproper := h.validation r hr
    exact Fields.eq_of_optionalDefault (Rule.discerned_toValue hproper) hr
      ⟨rfl, Rule.ofDocument?_toValue hproper⟩ hv hget hvalidation
  · have hread := listOf?_map fun c hc => Choice.ofDocument?_toValue (h.choices c hc)
    have heach := fun c hc => Choice.discerned_toValue (h.choices c hc)
    exact discerned_list (List.forall_mem_map.2 heach) v choices hv hread
      (Fields.read_of_withDefault hget hchoices)
  · exact reread_eq_self rfl hv
  · exact reread_eq_self (numbers_paramsValue params) hv
  · exact reread_eq_self t.numbers_toValue hv
  · exact reread_eq_self t.numbers_toValue hv
  · exact reread_eq_self rfl hv
  · exact reread_eq_self rfl hv
  · exact reread_eq_self rfl hv

end Step

namespace Workflow

variable {v : Value} {w : Workflow}

theorem discerned_toValue (h : w.Proper) : Discerned Workflow.ofDocument? w.toValue := by
  refine discerned_object (ofDocument?_toValue h) fun fs hsorted hread field hfield v hv hget => ?_
  simp only [ofDocument?, Fields.of?_object _ hsorted, Option.bind_eq_bind, Option.bind_some,
    Option.bind_eq_some_iff] at hread
  obtain ⟨id, -, startStepId, -, steps, hsteps, showProgress, -, onComplete, -,
    completionPromptKey, -, heq⟩ := hread
  cases heq
  simp only [List.mem_append, List.mem_cons, List.not_mem_nil, or_false, Value.mem_field?] at hfield
  rcases hfield with ((rfl | rfl | rfl | rfl) | ⟨hook, -, rfl⟩) | ⟨key, -, rfl⟩
  · exact reread_eq_self rfl hv
  · exact reread_eq_self rfl hv
  · have hread := listOf?_map fun s hs => Step.ofDocument?_toValue (h.steps s hs)
    have hread' : listOf? Step.ofDocument? (.ofValue v) = some steps := by
      simpa [Fields.required, Fields.find?_ofRecord, hget] using hsteps
    have heach := fun s hs => Step.discerned_toValue (h.steps s hs)
    exact discerned_list (List.forall_mem_map.2 heach) v steps hv hread hread'
  · exact reread_eq_self rfl hv
  · exact reread_eq_self rfl hv
  · exact reread_eq_self rfl hv

/-- Whether a workflow comes back from its text: it does not nest too deep, and every number in it
is read from its own text as it is. -/
structure Lasts (w : Workflow) : Prop where
  nesting : w.toValue.depth < Value.Reader.depthLimit
  numbers : ∀ n ∈ w.toValue.numbers, n.reread = some n

theorem ofText?_render_eq_iff (h : w.Proper) :
    (Value.ofText? w.toValue.render).map Workflow.ofValue = some (.ok w) ↔ w.Lasts := by
  rw [Value.ofText?_render (proper_toValue h)]
  constructor
  · intro hback
    split at hback
    · rename_i hdepth
      obtain ⟨v, hv, hread⟩ := Option.map_eq_some_iff.1 hback
      have hsame := discerned_toValue h v w hv (ofDocument?_toValue h) (ofValue_eq_ok_iff.1 hread)
      rw [hsame] at hv
      exact ⟨hdepth, (Value.reread_eq_self_iff _).1 hv⟩
    · cases hback
  · intro hlasts
    rw [if_pos hlasts.nesting, (Value.reread_eq_self_iff _).2 hlasts.numbers, Option.map_some,
      ofValue_eq_ok_iff.2 (ofDocument?_toValue h)]

/-- A workflow that was read from a value survives being written. What is written is a proper value
again, the same workflow is read from it, and writing that gives the same text. The workflow is read
from the text itself exactly when this does not nest too deep and each of its numbers is read from
its own digits as it is. -/
theorem survives_writing (hv : v.Proper) (hw : ofValue v = .ok w) :
    w.toValue.Proper ∧ ofValue w.toValue = .ok w ∧
      (∀ w', ofValue w.toValue = .ok w' → w'.toValue.render = w.toValue.render) ∧
      ((Value.ofText? w.toValue.render).map ofValue = some (.ok w) ↔ w.Lasts) := by
  have hproper := gives_ofDocument? v w hv (ofValue_eq_ok_iff.1 hw)
  have hread := ofValue_eq_ok_iff.2 (ofDocument?_toValue hproper)
  refine ⟨proper_toValue hproper, hread, ?_, ofText?_render_eq_iff hproper⟩
  intro w' hw'
  rw [hread] at hw'
  cases hw'
  rfl

theorem justBelow_finite : 4621706527598287257 < infinityCode := by decide

theorem roundedUp_finite : 4621706527598287258 < infinityCode := by decide

/-- The bound 9.799999999999999. -/
def justBelow : Double := ⟨false, 4621706527598287257, justBelow_finite⟩

def roundedUp : Double := ⟨false, 4621706527598287258, roundedUp_finite⟩

/-- A workflow as somebody writes it: a choice as a list, its value null, a placeholder between
blanks, and a rule of an unknown kind with the number next to 9.8 for a bound. -/
def draft : Value := .object [
  ("id", .text "poll"),
  ("startStepId", .text "ask"),
  ("steps", .list [.object [
    ("choices", .list [.list [.text "yes", .text "poll.yes", .null]]),
    ("id", .text "ask"),
    ("kind", .text "choice"),
    ("params", .object [("who", .text " \x7b\x7bname\x7d\x7d ")]),
    ("validation", .object [("kind", .text "iban"),
      ("max", .number (.integer 10)),
      ("min", .number (.double justBelow))])]])]

def drafted (low : Double) : Workflow where
  id := "poll"
  startStepId := "ask"
  steps := [{
    id := "ask"
    kind := some .choice
    choices := [⟨"yes", "poll.yes", none⟩]
    params := [("who", .reference "name")]
    validation := some {
      kind := .any
      min := some (.finite low)
      max := some (.finite ⟨false, 4621819117588971520, by decide⟩) } }]

/-- The draft is read, and comes back from what is written, which is another value. Its text is read
with the bound 9.8. -/
theorem survives_writing_draft : draft.Proper ∧ ofValue draft = .ok (drafted justBelow) ∧
    (drafted justBelow).toValue ≠ draft ∧
    ofValue (drafted justBelow).toValue = .ok (drafted justBelow) ∧
    (Value.ofText? (drafted justBelow).toValue.render).map ofValue =
      some (.ok (drafted roundedUp)) ∧
    ¬ (drafted justBelow).Lasts := by
  have hproper : draft.Proper := by
    simp only [draft, Value.Proper, Value.ProperItems, Value.ProperFields, true_and, and_true]
    decide +kernel
  have hread : ofValue draft = .ok (drafted justBelow) := ofValue_eq_ok_iff.2 (by decide +kernel)
  obtain ⟨hwritten, hback, -, hiff⟩ := survives_writing hproper hread
  have hreread : (drafted justBelow).toValue.reread =
      some (drafted roundedUp).toValue := by decide +kernel
  have hrounded : ofValue (drafted roundedUp).toValue = .ok (drafted roundedUp) :=
    ofValue_eq_ok_iff.2 (by decide +kernel)
  have htext : (Value.ofText? (drafted justBelow).toValue.render).map ofValue =
      some (.ok (drafted roundedUp)) := by
    rw [Value.ofText?_render hwritten, if_pos (by decide +kernel), hreread, Option.map_some,
      hrounded]
  refine ⟨hproper, hread, by decide +kernel, hback, htext, fun hlasts => ?_⟩
  have hsame := (hiff.2 hlasts).symm.trans htext
  exact absurd hsame (by decide +kernel)

end Workflow

end Dialogue
