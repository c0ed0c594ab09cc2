import Dialogue.Context.Record
import Dialogue.Proofs.InstantText
import Dialogue.Proofs.ValueText

namespace Dialogue

namespace Document

open Value

mutual
theorem toValue?_ofValue : ∀ {v : Value}, v.Proper → toValue? (ofValue v) = some v
  | .null, _ | .bool _, _ | .text _, _ | .number _, _ => rfl
  | .list vs, hv => by
    have hitems := toValues?_ofValues hv
    simp [ofValue, toValue?, hitems]
  | .object fs, hv => by
    have hfields := toFields?_ofFields hv.2
    simp [ofValue, toValue?, hfields, Record.ofList_eq_self hv.1]

theorem toValues?_ofValues : ∀ {vs : List Value}, ProperItems vs →
    toValues? (ofValues vs) = some vs
  | [], _ => rfl
  | v :: vs, hv => by
    simp [ofValues, toValues?, toValue?_ofValue hv.1, toValues?_ofValues hv.2]

theorem toFields?_ofFields : ∀ {fs : List (String × Value)}, ProperFields fs →
    toFields? (ofFields fs) = some fs
  | [], _ => rfl
  | (k, v) :: fs, hv => by
    simp [ofFields, toFields?, text?, toValue?_ofValue hv.1, toFields?_ofFields hv.2]
end

end Document

namespace Context

/-- Whether a context is one that programs make: its variables are proper, its instant is one that a
clock can show, and its version has 64 bits. -/
structure Proper (c : Context) : Prop where
  vars : (Value.object c.vars).Proper
  startedAt : ∀ t ∈ c.startedAt, t.Proper
  version : c.version < 18446744073709551616

/-- The context that a text of a context is read as; none if the variables nest too deep or have a
number that cannot be read. -/
def reread (c : Context) : Option Context :=
  if (Value.object c.vars).depth + 1 < Value.Reader.depthLimit then
    (Value.rereadFields c.vars).map fun vars => { c with vars }
  else none

variable {c : Context}

theorem optionalText_proper (s : Option String) : (optionalText s).Proper := by
  cases s <;> trivial

theorem properItems_texts (texts : List String) : Value.ProperItems (texts.map .text) := by
  induction texts with
  | nil => trivial
  | cons s texts ih => exact ⟨trivial, ih⟩

theorem proper_toValue (hc : c.Proper) : c.toValue.Proper := by
  have hretry : Number.IsIntegerRange c.retryCount.toNat := by
    have := c.retryCount.toNat_lt
    rw [Number.isIntegerRange_iff]
    omega
  have hversion : Number.IsIntegerRange c.version := by
    have := hc.version
    rw [Number.isIntegerRange_iff]
    omega
  have hnames : ["currentStepId", "history", "retryCount", "startedAt", "variables", "version",
      "workflowId"].Pairwise (· < ·) := by decide
  exact ⟨hnames, optionalText_proper _, properItems_texts _, hretry, optionalText_proper _,
    hc.vars, hversion, optionalText_proper _, trivial⟩

theorem optionalText_depth (s : Option String) : (optionalText s).depth = 0 := by
  cases s <;> rfl

theorem itemsDepth_texts (texts : List String) : Value.itemsDepth (texts.map .text) = 0 := by
  induction texts with
  | nil => rfl
  | cons s texts ih => simp [Value.itemsDepth, Value.depth, ih]

theorem depth_toValue (c : Context) : c.toValue.depth = (Value.object c.vars).depth + 1 := by
  simp only [toValue, Value.depth, Value.fieldsDepth, optionalText_depth, itemsDepth_texts]
  omega

theorem optionalText_reread (s : Option String) :
    (optionalText s).reread = some (optionalText s) := by
  cases s <;> rfl

theorem rereadItems_texts (texts : List String) :
    Value.rereadItems (texts.map .text) = some (texts.map .text) := by
  induction texts with
  | nil => rfl
  | cons s texts ih => simp [Value.rereadItems, Value.reread, ih]

theorem reread_toValue (hc : c.Proper) : c.toValue.reread =
    (Value.rereadFields c.vars).map fun vars => ({ c with vars } : Context).toValue := by
  obtain ⟨-, -, -, hretry, -, -, hversion, -⟩ := proper_toValue hc
  have hretry' := Value.Reader.reread_integer hretry
  have hversion' := Value.Reader.reread_integer hversion
  simp only [toValue, Value.reread, Value.rereadFields, optionalText_reread, rereadItems_texts,
    hretry', hversion']
  cases Value.rereadFields c.vars <;> rfl

theorem present_text (s : Option String) :
    Fields.present Document.text? (.ofValue (optionalText s)) = some s := by
  cases s <;> rfl

theorem present_instant {started : Option Instant} (h : ∀ t ∈ started, t.Proper) :
    Fields.present instant? (.ofValue (optionalText (started.map Instant.toText))) =
      some started := by
  cases started with
  | none => rfl
  | some t =>
    have hread := Instant.ofText?_toText (h t rfl)
    simp [optionalText, Document.ofValue, Fields.present, Document.isAbsent, instant?, hread]

theorem listOf?_texts (texts : List String) :
    Document.listOf? Document.text? (.list (Document.ofValues (texts.map .text))) = some texts := by
  rw [Document.listOf?, Document.items?, Option.bind_some]
  induction texts with
  | nil => rfl
  | cons s texts ih => simp [Document.ofValues, Document.ofValue, Document.text?, ih]

theorem natural?_integer {bound n : Nat} (hn : n ≤ bound) :
    Document.natural? bound (.number (.integer n)) = some n := by
  simp [Document.natural?, hn]

theorem ofValue?_toValue (hc : c.Proper) {vars : Record}
    (hvars : Value.rereadFields c.vars = some vars) :
    ofValue? ({ c with vars } : Context).toValue = some { c with vars } := by
  have hnames : Sorted vars := Value.sorted_rereadFields hc.vars.1 hvars
  have hfields := Document.toFields?_ofFields (Value.properFields_reread hc.vars.2 hvars)
  have hrecord : Document.recordOf? (.mapping (Document.ofFields vars)) = some vars := by
    rw [Document.recordOf?, Document.entries?, Option.bind_some, hfields, Option.map_some,
      Record.ofList_eq_self hnames]
  have hretry := natural?_integer (Nat.le_of_lt_succ c.retryCount.toNat_lt)
  have hversion := natural?_integer (Nat.le_of_lt_succ hc.version)
  simp [ofValue?, ofDocument?, toValue, Document.ofValue, Document.ofFields, Fields.of?,
    Document.entries?, Fields.entriesByName?, Document.name?, Fields.optional, Fields.withDefault,
    Fields.find?, List.lookup_cons, present_text, present_instant hc.startedAt, listOf?_texts,
    hrecord, hretry, hversion]

theorem ofText?_toText (hc : c.Proper) : ofText? c.toText = c.reread := by
  rw [ofText?, toText, Value.ofText?_render (proper_toValue hc), depth_toValue, reread_toValue hc,
    reread]
  split
  · cases hvars : Value.rereadFields c.vars with
    | none => rfl
    | some vars => exact ofValue?_toValue hc hvars
  · rfl

/-- Whether the variables of a context come back: they do not nest too deep, and every number in
them is read from its own text as it is. -/
structure Lasts (c : Context) : Prop where
  nesting : (Value.object c.vars).depth + 1 < Value.Reader.depthLimit
  numbers : ∀ n ∈ (Value.object c.vars).numbers, n.reread = some n

theorem lasts_of_vars_eq_nil (h : c.vars = []) : c.Lasts where
  nesting := by
    rw [h]
    decide
  numbers := by
    intro n hn
    rw [h] at hn
    cases hn

theorem reread_eq_self_iff : c.reread = some c ↔ c.Lasts := by
  rw [reread]
  split
  · rename_i hdepth
    simp only [Option.map_eq_some_iff]
    constructor
    · rintro ⟨vars, hvars, heq⟩
      have hsame : vars = c.vars := congrArg Context.vars heq
      rw [hsame] at hvars
      exact ⟨hdepth, (Value.rereadFields_eq_self_iff c.vars).1 hvars⟩
    · exact fun h => ⟨c.vars, (Value.rereadFields_eq_self_iff c.vars).2 h.numbers, rfl⟩
  · rename_i hdepth
    constructor
    · rintro ⟨⟩
    · exact fun h => absurd h.nesting hdepth

end Context

end Dialogue
