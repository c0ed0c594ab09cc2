import Dialogue.Proofs.ContextText
import Dialogue.Workflow.Record
import Mathlib.Data.List.Nodup

namespace Dialogue

variable {α β : Type}

namespace Value

theorem properItems_iff {vs : List Value} : ProperItems vs ↔ ∀ v ∈ vs, v.Proper := by
  induction vs with
  | nil => simp [ProperItems]
  | cons v vs ih => simp [ProperItems, ih]

theorem properFields_iff {fs : List (String × Value)} :
    ProperFields fs ↔ ∀ field ∈ fs, field.2.Proper := by
  induction fs with
  | nil => simp [ProperFields]
  | cons field fs ih => simp [ProperFields, ih]

theorem proper_ofList {fs : List (String × Value)} (h : ∀ field ∈ fs, field.2.Proper) :
    (Value.object (Record.ofList fs)).Proper :=
  ⟨Record.sorted_ofList fs,
    properFields_iff.2 fun field hfield => h field (Record.mem_ofList hfield)⟩

theorem mem_field? {name : String} {write : α → Value} {o : Option α} {field : String × Value} :
    field ∈ field? name write o ↔ ∃ a ∈ o, field = (name, write a) := by
  cases o with
  | none => simp [field?]
  | some a => simp [field?]

end Value

@[simp]
theorem Record.get?_ofList_field? (name : String) (write : α → Value) (o : Option α)
    (other : String) :
    (ofList (Value.field? name write o)).get? other =
      if other = name then o.map write else none := by
  cases o with
  | none => simp [Value.field?]
  | some a => simp [Value.field?]

@[simp]
theorem Record.get?_ofList_ite (p : Prop) [Decidable p] (fs : List (String × Value))
    (name : String) :
    (ofList (if p then [] else fs)).get? name = if p then none else (ofList fs).get? name := by
  split <;> rfl

namespace Document

theorem ofValues_eq_map (vs : List Value) : ofValues vs = vs.map ofValue := by
  induction vs with
  | nil => rfl
  | cons v vs ih => rw [ofValues, ih, List.map_cons]

theorem ofFields_eq_map (fs : List (String × Value)) :
    ofFields fs = fs.map fun field => (.text field.1, ofValue field.2) := by
  induction fs with
  | nil => rfl
  | cons field fs ih => rw [ofFields, ih, List.map_cons]

/-- Whether all that a reader reads from proper values has a property. -/
def Gives (read : Document → Option α) (P : α → Prop) : Prop :=
  ∀ v a, v.Proper → read (ofValue v) = some a → P a

theorem forall_of_mapM {f : α → Option β} {P : β → Prop} {xs : List α} {ys : List β}
    (hP : ∀ x ∈ xs, ∀ y, f x = some y → P y) (h : xs.mapM f = some ys) : ∀ y ∈ ys, P y := by
  induction xs generalizing ys with
  | nil =>
    cases h
    simp
  | cons x xs ih =>
    obtain ⟨hx, hxs⟩ := List.forall_mem_cons.1 hP
    simp only [List.mapM_cons, Option.bind_eq_bind, Option.bind_eq_some_iff] at h
    obtain ⟨y, hy, zs, hzs, heq⟩ := h
    cases heq
    exact List.forall_mem_cons.2 ⟨hx y hy, ih hxs hzs⟩

theorem Gives.listOf? {read : Document → Option α} {P : α → Prop} (h : Gives read P) :
    Gives (listOf? read) fun as => ∀ a ∈ as, P a := by
  intro v as hv hread
  obtain ⟨items, hitems, hmap⟩ := Option.bind_eq_some_iff.1 hread
  cases v with
  | list vs =>
    cases hitems
    refine forall_of_mapM (fun d hd a ha => ?_) hmap
    rw [ofValues_eq_map] at hd
    obtain ⟨v, hmem, rfl⟩ := List.mem_map.1 hd
    exact h v a (Value.properItems_iff.1 hv v hmem) ha
  | _ => cases hitems

theorem mapM_map {f : β → Option α} {g : α → β} {as : List α} (h : ∀ a ∈ as, f (g a) = some a) :
    (as.map g).mapM f = some as := by
  induction as with
  | nil => rfl
  | cons a as ih =>
    obtain ⟨ha, has⟩ := List.forall_mem_cons.1 h
    simp only [List.map_cons, List.mapM_cons, ha, ih has, Option.bind_eq_bind, Option.bind_some]
    rfl

theorem listOf?_map {read : Document → Option α} {write : α → Value} {as : List α}
    (h : ∀ a ∈ as, read (ofValue (write a)) = some a) :
    listOf? read (ofValue (.list (as.map write))) = some as := by
  rw [listOf?, ofValue, items?, Option.bind_some, ofValues_eq_map, List.map_map]
  exact mapM_map h

end Document

namespace Fields

open Document

variable {fs : Fields} {name : String} {read : Document → Option α} {P : α → Prop}

def Proper (fs : Fields) : Prop :=
  ∀ name, ∀ d ∈ fs.find? name, ∃ v : Value, v.Proper ∧ d = ofValue v

theorem entriesByName?_ofFields (r : Record) :
    entriesByName? (ofFields r) = some (r.map fun field => (field.1, ofValue field.2)) := by
  induction r with
  | nil => rfl
  | cons field r ih => simp [ofFields, entriesByName?, name?, ih]

theorem proper_of? {names : List String} {v : Value} (hv : v.Proper)
    (h : of? names (ofValue v) = some fs) : fs.Proper := by
  cases v with
  | list vs =>
    simp only [of?, ofValue, entries?, items?] at h
    split at h
    · cases h
      intro name d hd
      have hitem := List.mem_of_getElem? hd
      rw [ofValues_eq_map] at hitem
      obtain ⟨v, hmem, rfl⟩ := List.mem_map.1 hitem
      exact ⟨v, Value.properItems_iff.1 hv v hmem, rfl⟩
    · cases h
  | object r =>
    simp only [of?, ofValue, entries?, entriesByName?_ofFields, Option.bind_some] at h
    split at h
    · cases h
      intro name d hd
      obtain ⟨before, after, hsplit, -⟩ := List.lookup_eq_some_iff.1 hd
      have hentry : (name, d) ∈ r.map fun field => (field.1, ofValue field.2) := by simp [hsplit]
      obtain ⟨field, hmem, heq⟩ := List.mem_map.1 hentry
      cases heq
      exact ⟨field.2, Value.properFields_iff.1 hv.2 field hmem, rfl⟩
    · cases h
  | _ => cases h

theorem Proper.required (hfs : fs.Proper) (hread : Gives read P) {a : α}
    (h : fs.required name read = some a) : P a := by
  obtain ⟨d, hd, ha⟩ := Option.bind_eq_some_iff.1 h
  obtain ⟨v, hv, rfl⟩ := hfs name d hd
  exact hread v a hv ha

theorem Proper.withDefault (hfs : fs.Proper) (hread : Gives read P) {a default : α}
    (hdefault : P default) (h : fs.withDefault name default read = some a) : P a := by
  simp only [Fields.withDefault] at h
  split at h
  · rename_i d hd
    obtain ⟨v, hv, rfl⟩ := hfs name d hd
    exact hread v a hv h
  · cases h
    exact hdefault

theorem Gives.present (hread : Gives read P) : Gives (present read) fun o => ∀ a ∈ o, P a := by
  intro v o hv h
  simp only [Fields.present] at h
  split at h
  · cases h
    simp
  · obtain ⟨a, ha, rfl⟩ := Option.map_eq_some_iff.1 h
    rintro _ ⟨⟩
    exact hread v a hv ha

theorem Proper.optionalDefault (hfs : fs.Proper) (hread : Gives read P) {o : Option α}
    (h : fs.optionalDefault name read = some o) : ∀ a ∈ o, P a :=
  hfs.withDefault (Gives.present hread) (by simp) h

theorem Proper.optional (hfs : fs.Proper) (hread : Gives read P) {o : Option α}
    (h : fs.optional name read = some o) : ∀ a ∈ o, P a := by
  simp only [Fields.optional] at h
  split at h
  · rename_i d hd
    obtain ⟨v, hv, rfl⟩ := hfs name d hd
    exact Gives.present hread v o hv h
  · cases h
    simp
  · cases h

section Written

variable {r : Record} {names : List String} {v : Value} {a default : α}

def ofRecord (r : Record) : Fields := .named (r.map fun field => (field.1, ofValue field.2))

theorem find?_ofRecord (r : Record) (name : String) :
    (ofRecord r).find? name = (r.get? name).map ofValue := by
  induction r with
  | nil => rfl
  | cons field r ih =>
    obtain ⟨k, v⟩ := field
    simp only [ofRecord, find?, List.map_cons, List.lookup_cons, Record.get?] at ih ⊢
    by_cases hname : name = k
    · simp [hname]
    · rw [beq_eq_false_iff_ne.2 hname, if_neg hname, ih]

theorem of?_object (names : List String) (hr : Sorted r) :
    of? names (ofValue (.object r)) = some (ofRecord r) := by
  have honce : ∀ name, ((r.map fun field => (field.1, ofValue field.2)).filter
      (·.1 = name)).length ≤ 1 := by
    intro name
    have hnames : (r.map Prod.fst).Nodup := List.Pairwise.imp ne_of_lt hr
    have hcount := List.nodup_iff_count_le_one.1 hnames name
    rw [List.count, List.countP_map] at hcount
    rw [← List.countP_eq_length_filter, List.countP_map]
    exact hcount
  simp only [of?, ofValue, entries?, entriesByName?_ofFields, Option.bind_some]
  rw [if_pos (List.all_eq_true.2 fun name _ => decide_eq_true (honce name))]
  rfl

theorem required_ofRecord (hget : r.get? name = some v) (hread : read (ofValue v) = some a) :
    (ofRecord r).required name read = some a := by
  simp [required, find?_ofRecord, hget, hread]

theorem withDefault_ofRecord (hget : r.get? name = some v) (hread : read (ofValue v) = some a) :
    (ofRecord r).withDefault name default read = some a := by
  simp [withDefault, find?_ofRecord, hget, hread]

/-- A list that is left out when it is empty is read back. -/
theorem withDefault_nil_ofRecord {as : List α} {read : Document → Option (List α)}
    (hget : r.get? name = if as.isEmpty then none else some v)
    (hread : read (ofValue v) = some as) : (ofRecord r).withDefault name [] read = some as := by
  cases as with
  | nil => simp [withDefault, find?_ofRecord, hget]
  | cons a as => exact withDefault_ofRecord hget hread

/-- A field that is left out when there is none is read back, if what is written is not taken for
nothing. -/
theorem optionalDefault_ofRecord {f : α → Value} {o : Option α}
    (hget : r.get? name = o.map f)
    (hread : ∀ a ∈ o, (ofValue (f a)).isAbsent = false ∧ read (ofValue (f a)) = some a) :
    (ofRecord r).optionalDefault name read = some o := by
  cases o with
  | none => simp [optionalDefault, withDefault, find?_ofRecord, hget]
  | some a =>
    obtain ⟨habsent, hread⟩ := hread a rfl
    simp [optionalDefault, withDefault, find?_ofRecord, hget, present, habsent, hread]

theorem optional_ofRecord {f : α → Value} {o : Option α} (hget : r.get? name = o.map f)
    (hread : ∀ a ∈ o, (ofValue (f a)).isAbsent = false ∧ read (ofValue (f a)) = some a) :
    (ofRecord r).optional name read = some o := by
  have hsame : (ofRecord r).optional name read = (ofRecord r).optionalDefault name read := by
    simp only [optional, optionalDefault, withDefault, ofRecord]
    split
    · rename_i hfind
      simp [hfind]
    · rename_i hfind _
      simp [hfind]
    · cases ‹_›
  rw [hsame, optionalDefault_ofRecord hget hread]

end Written

end Fields

end Dialogue
