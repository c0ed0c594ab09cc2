import Dialogue.Session.Store

namespace Dialogue

namespace SessionMap

theorem lookup_put (m : SessionMap) (key k : String) (c : Context) :
    (m.put key c).lookup k = if k = key then some c else m.lookup k := by
  induction m with
  | nil =>
    by_cases h : k = key
    · simp [put, h]
    · simp [put, List.lookup_cons, h, beq_false_of_ne h]
  | cons entry rest ih =>
    obtain ⟨k₀, d⟩ := entry
    by_cases h₀ : k₀ = key
    · by_cases h : k = key
      · simp [put, h₀, h]
      · simp [put, List.lookup_cons, h₀, h, beq_false_of_ne h]
    · by_cases h : k = k₀
      · subst h
        simp [put, h₀]
      · simp [put, List.lookup_cons, h₀, beq_false_of_ne h, ih]

end SessionMap

namespace SessionTable

/-- A session has one row. -/
def Keyed (t : SessionTable) : Prop := (t.map (·.key)).Nodup

theorem key_of_row? {t : SessionTable} {key : String} {r : SessionRow} (h : t.row? key = some r) :
    r.key = key := by
  simpa using List.find?_some h

theorem row?_of_mem {t : SessionTable} (ht : t.Keyed) {r : SessionRow} (hr : r ∈ t) :
    t.row? r.key = some r := by
  induction t with
  | nil => cases hr
  | cons r₀ t ih =>
    obtain ⟨hfresh, ht⟩ := List.nodup_cons.1 ht
    rcases List.mem_cons.1 hr with rfl | hr
    · simp [row?]
    · have hne : r₀.key ≠ r.key := fun h => hfresh (List.mem_map.2 ⟨r, hr, h.symm⟩)
      simpa [row?, hne] using ih ht hr

theorem row?_map (t : SessionTable) {f : SessionRow → SessionRow} (hf : ∀ r, (f r).key = r.key)
    (k : String) : row? (t.map f) k = (t.row? k).map f := by
  have hfound : (fun r : SessionRow => decide (r.key = k)) ∘ f = fun r => decide (r.key = k) := by
    funext r
    simp [hf]
  rw [row?, List.find?_map, hfound]
  rfl

theorem keyed_map {t : SessionTable} (ht : t.Keyed) {f : SessionRow → SessionRow}
    (hf : ∀ r, (f r).key = r.key) : Keyed (t.map f) := by
  simpa [Keyed, Function.comp_def, hf] using ht

theorem insertNew_some {t t' : SessionTable} {row : SessionRow} (ht : t.Keyed)
    (h : t.insertNew row = some t') :
    t.row? row.key = none ∧ t'.Keyed ∧
      ∀ k, t'.row? k = if k = row.key then some row else t.row? k := by
  simp only [insertNew] at h
  split at h
  · cases h
  · rename_i hnone
    cases h
    have hnone : t.row? row.key = none := by simpa using hnone
    have hfresh : ∀ r ∈ t, r.key ≠ row.key := by simpa [row?] using hnone
    refine ⟨hnone, ?_, fun k => ?_⟩
    · simp only [Keyed, List.map_append, List.map_cons, List.map_nil, List.nodup_append]
      refine ⟨ht, by simp, ?_⟩
      rintro k hk _ hrow rfl
      obtain ⟨r, hr, rfl⟩ := List.mem_map.1 hk
      exact hfresh r hr (by simpa using hrow)
    · by_cases hk : k = row.key
      · subst hk
        rw [row?] at hnone
        simp [row?, List.find?_append, hnone]
      · simp [row?, List.find?_append, hk, Ne.symm hk]

theorem update_some {t t' : SessionTable} {row : SessionRow} {v : Nat} (ht : t.Keyed)
    (h : t.update row v = some t') :
    (t.row? row.key).map (·.version) = some v ∧ t'.Keyed ∧
      ∀ k, t'.row? k = if k = row.key then some row else t.row? k := by
  simp only [update] at h
  split at h
  · rename_i hany
    cases h
    obtain ⟨r, hr, hrow⟩ := List.any_eq_true.1 hany
    obtain ⟨hkey, hv⟩ : r.key = row.key ∧ r.version = v := by simpa using hrow
    -- The key is unique, so the row that matched is the one that is found.
    have hfound : t.row? row.key = some r := hkey ▸ row?_of_mem ht hr
    have hf : ∀ r : SessionRow,
        (if r.key = row.key ∧ r.version = v then row else r).key = r.key := by
      intro r
      split
      · rename_i h
        exact h.1.symm
      · rfl
    refine ⟨by simp [hfound, hv], keyed_map ht hf, fun k => ?_⟩
    rw [row?_map t hf]
    by_cases hk : k = row.key
    · simp [hk, hfound, hkey, hv]
    · rw [if_neg hk]
      cases hother : t.row? k with
      | none => rfl
      | some r' => simp [key_of_row? hother, hk]
  · cases h

def emptied (r : SessionRow) : SessionRow :=
  { r with text := Context.toText {}, version := r.version + 1 }

theorem row?_clear (t : SessionTable) (key k : String) :
    (t.clear key).row? k = if k = key then (t.row? k).map emptied else t.row? k := by
  rw [clear, row?_map]
  · cases hrow : t.row? k with
    | none => simp
    | some r =>
      by_cases hk : k = key
      · simp [key_of_row? hrow, hk, emptied]
      · simp [key_of_row? hrow, hk]
  · intro r
    split <;> rfl

theorem keyed_clear {t : SessionTable} (ht : t.Keyed) (key : String) : (t.clear key).Keyed :=
  keyed_map ht fun r => by split <;> rfl

/-- A save that goes through meets the expected version and puts a row. -/
theorem save_ok {t t' : SessionTable} {key : String} {c : Context} {expected : Option Nat}
    (ht : t.Keyed) (h : t.save key c expected = .ok t') :
    (t.row? key).map (·.version) = expected ∧ t'.Keyed ∧
      ∀ k, t'.row? k = if k = key then some ⟨key, c.toText, c.version⟩ else t.row? k := by
  simp only [save] at h
  split at h
  · rename_i t₁ hwritten
    cases h
    cases expected with
    | none =>
      obtain ⟨hnone, hkeyed, hrows⟩ := insertNew_some ht hwritten
      exact ⟨by simp only at hnone; simp [hnone], hkeyed, hrows⟩
    | some v => exact update_some ht hwritten
  · cases h

theorem save_error {t : SessionTable} {key : String} {c : Context} {expected : Option Nat}
    {e : Error} (h : t.save key c expected = .error e) :
    e = .versionConflict key expected ((t.row? key).map (·.version)) ∧
      (t.row? key).map (·.version) ≠ expected := by
  simp only [save] at h
  split at h
  · cases h
  · rename_i hrefused
    cases h
    refine ⟨rfl, fun hv => ?_⟩
    subst hv
    cases hrow : t.row? key with
    | none => simp [hrow, insertNew] at hrefused
    | some r =>
      have hr := List.mem_of_find?_eq_some hrow
      simp only [hrow, Option.map_some, update] at hrefused
      rw [if_pos (List.any_eq_true.2 ⟨r, hr, by simp [key_of_row? hrow]⟩)] at hrefused
      cases hrefused

end SessionTable

namespace SessionStore

/-- The version stored for a session. -/
def version? : SessionStore → String → Option Nat
  | .memory m, key => (m.lookup key).map (·.version)
  | .table t, key => (t.row? key).map (·.version)

/-- A session is stored once. -/
def Keyed : SessionStore → Prop
  | .memory _ => True
  | .table t => t.Keyed

/-- Whether two stores of one kind have the same for a session. -/
def SameAt (key : String) : SessionStore → SessionStore → Prop
  | .memory m, .memory m' => m'.lookup key = m.lookup key
  | .table t, .table t' => t'.row? key = t.row? key
  | _, _ => False

/-- Nothing but one session may have changed. -/
def SameBut (key : String) (s s' : SessionStore) : Prop := ∀ k, k ≠ key → SameAt k s s'

theorem SameAt.refl (key : String) (s : SessionStore) : SameAt key s s := by
  cases s <;> rfl

theorem SameAt.symm {key : String} {s s' : SessionStore} (h : SameAt key s s') :
    SameAt key s' s := by
  cases s <;> cases s' <;> first | exact Eq.symm h | exact h

theorem SameAt.trans {key : String} {s s' s'' : SessionStore} (h : SameAt key s s')
    (h' : SameAt key s' s'') : SameAt key s s'' := by
  cases s <;> cases s' <;> cases s'' <;> first | exact Eq.trans h' h | exact h.elim | exact h'.elim

theorem SameAt.load_eq {key : String} {s s' : SessionStore} (h : SameAt key s s') :
    s'.load key = s.load key := by
  cases s with
  | memory m =>
    cases s' with
    | memory m' => exact congrArg Except.ok h
    | table t' => exact h.elim
  | table t =>
    cases s' with
    | memory m' => exact h.elim
    | table t' =>
      change t'.row? key = t.row? key at h
      simp only [load, SessionTable.load, h]

theorem SameAt.version?_eq {key : String} {s s' : SessionStore} (h : SameAt key s s') :
    s'.version? key = s.version? key := by
  cases s with
  | memory m =>
    cases s' with
    | memory m' => exact congrArg (Option.map (·.version)) h
    | table t' => exact h.elim
  | table t =>
    cases s' with
    | memory m' => exact h.elim
    | table t' => exact congrArg (Option.map (·.version)) h

theorem version?_of_load {s : SessionStore} {key : String} {stored : Option Context}
    (h : s.load key = .ok stored) : s.version? key = stored.map (·.version) := by
  cases s with
  | memory m =>
    cases h
    rfl
  | table t =>
    simp only [load, SessionTable.load] at h
    split at h
    · rename_i hrow
      cases h
      simp [version?, hrow]
    · rename_i row hrow
      split at h
      · cases h
        simp [version?, hrow]
      · cases h

/-- A save that goes through meets the expected version, leaves that of the context and touches no
other session. -/
theorem save_ok {s s' : SessionStore} {key : String} {c : Context} {expected : Option Nat}
    (hs : s.Keyed) (h : s.save key c expected = .ok s') :
    s.version? key = expected ∧ s'.version? key = some c.version ∧ s'.Keyed ∧
      SameBut key s s' := by
  cases s with
  | memory m =>
    simp only [save, SessionMap.save] at h
    split at h
    · rename_i hfound
      cases h
      refine ⟨hfound, by simp [version?, SessionMap.lookup_put], trivial, fun k hk => ?_⟩
      simp [SameAt, SessionMap.lookup_put, hk]
    · cases h
  | table t =>
    simp only [save] at h
    cases hsave : t.save key c expected with
    | error e => simp [hsave, Except.map] at h
    | ok t' =>
      rw [hsave] at h
      cases h
      obtain ⟨hfound, hkeyed, hrows⟩ := SessionTable.save_ok hs hsave
      refine ⟨hfound, by simp [version?, hrows], hkeyed, fun k hk => ?_⟩
      simp [SameAt, hrows, hk]

theorem save_error {s : SessionStore} {key : String} {c : Context} {expected : Option Nat}
    {e : Error} (h : s.save key c expected = .error e) :
    e = .versionConflict key expected (s.version? key) ∧ s.version? key ≠ expected := by
  cases s with
  | memory m =>
    simp only [save, SessionMap.save] at h
    split at h
    · cases h
    · rename_i hfound
      cases h
      exact ⟨rfl, hfound⟩
  | table t =>
    simp only [save] at h
    cases hsave : t.save key c expected with
    | error e' =>
      rw [hsave] at h
      cases h
      exact SessionTable.save_error hsave
    | ok t' => simp [hsave, Except.map] at h

/-- Emptying a session counts as a write of it, if there is anything stored for it. -/
theorem version?_clear (s : SessionStore) (key : String) :
    (s.clear key).version? key = (s.version? key).map (· + 1) := by
  cases s with
  | memory m =>
    simp only [clear, SessionMap.clear, version?]
    cases hfound : m.lookup key with
    | none => simp [hfound]
    | some c => simp [SessionMap.lookup_put]
  | table t =>
    simp only [clear, version?, SessionTable.row?_clear, if_true, Option.map_map]
    rfl

theorem clear_sameBut (s : SessionStore) (key : String) : SameBut key s (s.clear key) := by
  intro k hk
  cases s with
  | memory m =>
    simp only [clear, SessionMap.clear]
    split
    · simp [SameAt, SessionMap.lookup_put, hk]
    · rfl
  | table t =>
    simp [clear, SameAt, SessionTable.row?_clear, hk]

theorem keyed_clear {s : SessionStore} (hs : s.Keyed) (key : String) : (s.clear key).Keyed := by
  cases s with
  | memory m => trivial
  | table t => exact SessionTable.keyed_clear hs key

theorem ofText?_toText_empty : Context.ofText? (Context.toText {}) = some {} := by
  decide +kernel

/-- A session that was emptied has nothing but its version. -/
theorem load_clear (s : SessionStore) (key : String) :
    (s.clear key).load key = .ok ((s.version? key).map fun v => { version := v + 1 }) := by
  cases s with
  | memory m =>
    simp only [clear, SessionMap.clear, load, SessionMap.load, version?]
    cases hfound : m.lookup key with
    | none => simp [hfound]
    | some c => simp [SessionMap.lookup_put, Context.clear]
  | table t =>
    simp only [clear, load, SessionTable.load, version?, SessionTable.row?_clear, if_true]
    cases hrow : t.row? key with
    | none => rfl
    | some r => simp [SessionTable.emptied, ofText?_toText_empty]

theorem save_of_version {s : SessionStore} {key : String} {expected : Option Nat}
    (h : s.version? key = expected) (c : Context) : ∃ s', s.save key c expected = .ok s' := by
  cases hsave : s.save key c expected with
  | ok s' => exact ⟨s', rfl⟩
  | error e => exact ((save_error hsave).2 h).elim

theorem SameAt.save {key : String} {s s' t : SessionStore} {c : Context} {expected : Option Nat}
    (hs : s.Keyed) (ht : t.Keyed) (h : SameAt key s t) (hsave : s.save key c expected = .ok s') :
    ∃ t', t.save key c expected = .ok t' ∧ SameAt key s' t' := by
  -- The version is the same in both stores, so the save goes through in the other one too.
  obtain ⟨t', hsave'⟩ := save_of_version (h.version?_eq.trans (save_ok hs hsave).1) c
  refine ⟨t', hsave', ?_⟩
  cases s with
  | memory m =>
    cases t with
    | table t => exact h.elim
    | memory m' =>
      simp only [SessionStore.save, SessionMap.save] at hsave hsave'
      split at hsave
      · cases hsave
        split at hsave'
        · cases hsave'
          simp [SameAt, SessionMap.lookup_put]
        · cases hsave'
      · cases hsave
  | table t₁ =>
    cases t with
    | memory m' => exact h.elim
    | table t₂ =>
      simp only [SessionStore.save] at hsave hsave'
      cases hsave₁ : t₁.save key c expected with
      | error e => simp [hsave₁, Except.map] at hsave
      | ok t₁' =>
        cases hsave₂ : t₂.save key c expected with
        | error e => simp [hsave₂, Except.map] at hsave'
        | ok t₂' =>
          rw [hsave₁] at hsave
          rw [hsave₂] at hsave'
          cases hsave
          cases hsave'
          simp [SameAt, (SessionTable.save_ok hs hsave₁).2.2, (SessionTable.save_ok ht hsave₂).2.2]

theorem SameAt.clear {key : String} {s t : SessionStore} (h : SameAt key s t) :
    SameAt key (s.clear key) (t.clear key) := by
  cases s with
  | memory m =>
    cases t with
    | table t => exact h.elim
    | memory m' =>
      change m'.lookup key = m.lookup key at h
      simp only [SessionStore.clear, SessionMap.clear, h]
      cases hfound : m.lookup key with
      | none => simpa [SameAt, hfound] using h
      | some c => simp [SameAt, SessionMap.lookup_put]
  | table t₁ =>
    cases t with
    | memory m' => exact h.elim
    | table t₂ =>
      change t₂.row? key = t₁.row? key at h
      simp [SameAt, SessionStore.clear, SessionTable.row?_clear, h]

end SessionStore

end Dialogue
