import Dialogue.Proofs.Entries
import Dialogue.Session.Lease
import Mathlib.Data.List.Nodup
import Mathlib.Data.List.Perm.Subperm

namespace Dialogue

namespace LockTable

inductive Act where
  | checkOut (turn : Nat) (session : String)
  | acquire (turn : Nat)
  | release (turn : Nat)
  | drop (turn : Nat)

namespace Act

def turn : Act → Nat
  | .checkOut turn _ | .acquire turn | .release turn | .drop turn => turn

end Act

/-- The steps of turns at the table, each in one piece. Any turn that waits may get a lock that
nobody holds. A turn may leave at any time, also while it waits, but it lets go of the lock before
its lease is dropped. -/
inductive Step : LockTable → Act → LockTable → Prop
  | checkOut {t : LockTable} {turn : Nat} {session : String} (hnew : t.lease? turn = none) :
      Step t (.checkOut turn session) (t.checkOut turn session)
  | acquire {t : LockTable} {turn : Nat} {l : Lease} (hlease : t.lease? turn = some l)
      (hwaits : l.stage = .waiting) (hfree : t.isHeld l.lock = false) :
      Step t (.acquire turn) (t.setStage turn .holding)
  | release {t : LockTable} {turn : Nat} {l : Lease} (hlease : t.lease? turn = some l)
      (hholds : l.stage = .holding) : Step t (.release turn) (t.release turn)
  | drop {t : LockTable} {turn : Nat} {l : Lease} (hlease : t.lease? turn = some l)
      (hidle : l.stage ≠ .holding) : Step t (.drop turn) (t.drop turn)

/-- Whether a turn holds the lock of its session. -/
def Holds (t : LockTable) (turn : Nat) : Prop :=
  ∃ l ∈ t.leases, l.turn = turn ∧ l.stage = .holding

/-- What holds between the table and the live leases: a turn has one lease, a session one entry and
a lock one session; a lease is on the lock in the table, and there is nothing in the table that is
not leased; and of the leases of a session one at most is held. -/
structure Sound (t : LockTable) : Prop where
  turns : (t.leases.map (·.turn)).Nodup
  sessions : (t.locks.map Prod.fst).Nodup
  locks : (t.locks.map Prod.snd).Nodup
  numbered : ∀ entry ∈ t.locks, entry.2 < t.fresh
  leased : ∀ l ∈ t.leases, (l.session, l.lock) ∈ t.locks
  used : ∀ entry ∈ t.locks, ∃ l ∈ t.leases, l.session = entry.1
  exclusive : ∀ l ∈ t.leases, ∀ l' ∈ t.leases, l.session = l'.session →
    l.stage = .holding → l'.stage = .holding → l = l'

theorem sound_empty : Sound {} where
  turns := .nil
  sessions := .nil
  locks := .nil
  numbered := nofun
  leased := nofun
  used := nofun
  exclusive := nofun

variable {t t' : LockTable} {turn lock : Nat} {session : String} {stage : LeaseStage}
  {l l' : Lease}

theorem lease?_eq_none_iff : t.lease? turn = none ↔ ∀ l ∈ t.leases, l.turn ≠ turn := by
  simp [lease?]

theorem mem_of_lease? (h : t.lease? turn = some l) : l ∈ t.leases ∧ l.turn = turn :=
  ⟨List.mem_of_find?_eq_some h, by simpa using List.find?_some h⟩

namespace Sound

theorem lease_eq (h : t.Sound) (hl : l ∈ t.leases) (hl' : l' ∈ t.leases)
    (hturn : l.turn = l'.turn) : l = l' :=
  List.inj_on_of_nodup_map h.turns hl hl' hturn

theorem lookup_eq (h : t.Sound) (hl : l ∈ t.leases) : t.locks.lookup l.session = some l.lock :=
  (Entries.lookup_eq_some_iff h.sessions).2 (h.leased l hl)

theorem lock_eq_iff (h : t.Sound) (hl : l ∈ t.leases) (hl' : l' ∈ t.leases) :
    l.lock = l'.lock ↔ l.session = l'.session := by
  constructor
  · intro hlock
    exact congrArg Prod.fst
      (List.inj_on_of_nodup_map h.locks (h.leased l hl) (h.leased l' hl') hlock)
  · intro hsession
    exact congrArg Prod.snd
      (List.inj_on_of_nodup_map h.sessions (h.leased l hl) (h.leased l' hl') hsession)

/-- A session without a live lease has no entry. -/
theorem lookup_eq_none (h : t.Sound) (hidle : ∀ l ∈ t.leases, l.session ≠ session) :
    t.locks.lookup session = none := by
  rw [Option.eq_none_iff_forall_ne_some]
  intro lock hlock
  obtain ⟨l, hl, hsession⟩ := h.used _ ((Entries.lookup_eq_some_iff h.sessions).1 hlock)
  exact hidle l hl hsession

/-- A lock is referred to by its entry and by the leases of its session. -/
theorem references_eq (h : t.Sound) (hl : l ∈ t.leases) :
    t.references l.lock = 1 + (t.leases.filter (·.session = l.session)).length := by
  have hentry : (t.locks.filter (·.2 = l.lock)).length = 1 := by
    have hcount := List.count_eq_one_of_mem h.locks (List.mem_map_of_mem (h.leased l hl))
    rw [List.count_eq_countP, List.countP_map, List.countP_eq_length_filter] at hcount
    rw [← hcount]
    rfl
  have hleases : t.leases.filter (·.lock = l.lock) = t.leases.filter (·.session = l.session) :=
    List.filter_congr fun l' hl' => by simp [h.lock_eq_iff hl' hl]
  rw [references, hentry, hleases]

/-- Two references are left if and only if no other lease of the session is live. -/
theorem references_le_iff (h : t.Sound) (hl : l ∈ t.leases) : t.references l.lock ≤ 2 ↔
    ∀ l' ∈ t.leases, l'.session = l.session → l' = l := by
  have hmem : l ∈ t.leases.filter (·.session = l.session) := by simp [hl]
  have hnodup := (List.Nodup.of_map _ h.turns).filter (·.session = l.session)
  rw [h.references_eq hl]
  constructor
  · intro hle l' hl' hsession
    have hmem' : l' ∈ t.leases.filter (·.session = l.session) := by simp [hl', hsession]
    obtain ⟨only, honly⟩ := List.length_eq_one_iff.1
      (Nat.le_antisymm (by omega) (List.length_pos_of_mem hmem))
    rw [honly, List.mem_singleton] at hmem hmem'
    rw [hmem, hmem']
  · intro honly
    have hsubset : t.leases.filter (·.session = l.session) ⊆ [l] := by
      intro l' hl'
      obtain ⟨hl', hsession⟩ := List.mem_filter.1 hl'
      exact List.mem_singleton.2 (honly l' hl' (by simpa using hsession))
    have hlength := (List.subperm_of_subset hnodup hsubset).length_le
    simp only [List.length_singleton] at hlength
    omega

end Sound

/-- What is found after a lease is checked out: its lock, which is the one that was in the table if
there was one. -/
theorem checkOut_eq (t : LockTable) (turn : Nat) (session : String) :
    ∃ lock, (t.checkOut turn session).leases = t.leases ++ [⟨turn, session, lock, .waiting⟩] ∧
      ((t.locks.lookup session = some lock ∧ (t.checkOut turn session).locks = t.locks ∧
          (t.checkOut turn session).fresh = t.fresh) ∨
        (t.locks.lookup session = none ∧ lock = t.fresh ∧
          (t.checkOut turn session).locks = (session, t.fresh) :: t.locks ∧
          (t.checkOut turn session).fresh = t.fresh + 1)) := by
  rw [checkOut]
  cases hlookup : t.locks.lookup session with
  | some lock => exact ⟨lock, rfl, .inl ⟨rfl, rfl, rfl⟩⟩
  | none => exact ⟨t.fresh, rfl, .inr ⟨rfl, rfl, rfl, rfl⟩⟩

theorem exists_mem_leases_checkOut_iff (t : LockTable) (turn : Nat) (session : String) :
    ∃ lock, ∀ l, l ∈ (t.checkOut turn session).leases ↔
      l ∈ t.leases ∨ l = ⟨turn, session, lock, .waiting⟩ := by
  obtain ⟨lock, hleases, -⟩ := checkOut_eq t turn session
  exact ⟨lock, by simp [hleases]⟩

theorem Sound.checkOut (h : t.Sound) (hnew : t.lease? turn = none) :
    (t.checkOut turn session).Sound := by
  obtain ⟨lock, hleases, htable⟩ := checkOut_eq t turn session
  have hmem : ∀ l, l ∈ (t.checkOut turn session).leases ↔
      l ∈ t.leases ∨ l = ⟨turn, session, lock, .waiting⟩ := by simp [hleases]
  have hturns : ((t.checkOut turn session).leases.map (·.turn)).Nodup := by
    rw [hleases, List.map_append, List.map_singleton]
    refine h.turns.append (List.nodup_singleton _) ?_
    simpa using lease?_eq_none_iff.1 hnew
  have hexclusive : ∀ l ∈ (t.checkOut turn session).leases,
      ∀ l' ∈ (t.checkOut turn session).leases, l.session = l'.session →
        l.stage = .holding → l'.stage = .holding → l = l' := by
    intro l hl l' hl' hsession hstage hstage'
    rcases (hmem l).1 hl with hl | rfl
    · rcases (hmem l').1 hl' with hl' | rfl
      · exact h.exclusive l hl l' hl' hsession hstage hstage'
      · cases hstage'
    · cases hstage
  rcases htable with ⟨hlookup, hlocks, hfresh⟩ | ⟨hlookup, rfl, hlocks, hfresh⟩
  · -- There is an entry already, and the new lease is on its lock.
    have hentry := (Entries.lookup_eq_some_iff h.sessions).1 hlookup
    refine ⟨hturns, ?_, ?_, ?_, ?_, ?_, hexclusive⟩
    · rw [hlocks]
      exact h.sessions
    · rw [hlocks]
      exact h.locks
    · rw [hlocks, hfresh]
      exact h.numbered
    · intro l hl
      rw [hlocks]
      rcases (hmem l).1 hl with hl | rfl
      · exact h.leased l hl
      · exact hentry
    · intro entry he
      rw [hlocks] at he
      obtain ⟨l, hl, hsession⟩ := h.used entry he
      exact ⟨l, (hmem l).2 (.inl hl), hsession⟩
  · -- There is a new entry with a lock that was never used.
    have hsession : session ∉ t.locks.map Prod.fst := by
      intro hin
      obtain ⟨⟨_, lock⟩, hentry, rfl⟩ := List.mem_map.1 hin
      rw [(Entries.lookup_eq_some_iff h.sessions).2 hentry] at hlookup
      cases hlookup
    have hlock : t.fresh ∉ t.locks.map Prod.snd := by
      intro hin
      obtain ⟨entry, hentry, hfresh⟩ := List.mem_map.1 hin
      exact Nat.ne_of_lt (h.numbered entry hentry) hfresh
    refine ⟨hturns, ?_, ?_, ?_, ?_, ?_, hexclusive⟩
    · rw [hlocks]
      exact List.nodup_cons.2 ⟨hsession, h.sessions⟩
    · rw [hlocks]
      exact List.nodup_cons.2 ⟨hlock, h.locks⟩
    · intro entry he
      rw [hlocks] at he
      rw [hfresh]
      rcases List.mem_cons.1 he with rfl | he
      · exact Nat.lt_succ_self _
      · exact Nat.lt_succ_of_lt (h.numbered entry he)
    · intro l hl
      rw [hlocks]
      rcases (hmem l).1 hl with hl | rfl
      · exact List.mem_cons_of_mem _ (h.leased l hl)
      · exact List.mem_cons_self
    · intro entry he
      rw [hlocks] at he
      rcases List.mem_cons.1 he with rfl | he
      · exact ⟨_, (hmem _).2 (.inr rfl), rfl⟩
      · obtain ⟨l, hl, hsession⟩ := h.used entry he
        exact ⟨l, (hmem l).2 (.inl hl), hsession⟩

def restage (turn : Nat) (stage : LeaseStage) (l : Lease) : Lease :=
  if l.turn = turn then { l with stage } else l

@[simp]
theorem restage_turn : (restage turn stage l).turn = l.turn := by
  rw [restage]
  split <;> rfl

@[simp]
theorem restage_session : (restage turn stage l).session = l.session := by
  rw [restage]
  split <;> rfl

@[simp]
theorem restage_lock : (restage turn stage l).lock = l.lock := by
  rw [restage]
  split <;> rfl

theorem leases_setStage (t : LockTable) (turn : Nat) (stage : LeaseStage) :
    (t.setStage turn stage).leases = t.leases.map (restage turn stage) := rfl

theorem mem_setStage_iff (hne : l.turn ≠ turn) :
    l ∈ (t.setStage turn stage).leases ↔ l ∈ t.leases := by
  rw [leases_setStage, List.mem_map]
  constructor
  · rintro ⟨l, hl, rfl⟩
    rw [restage_turn] at hne
    rwa [restage, if_neg hne]
  · exact fun hl => ⟨l, hl, if_neg hne⟩

theorem stage_of_mem_setStage (hl : l ∈ (t.setStage turn stage).leases) (hturn : l.turn = turn) :
    l.stage = stage := by
  rw [leases_setStage, List.mem_map] at hl
  obtain ⟨l, -, rfl⟩ := hl
  rw [restage_turn] at hturn
  rw [restage, if_pos hturn]

/-- A lease may be held from now on if no other one of its session is, and let go at any time. -/
theorem Sound.setStage (h : t.Sound) (hfree : stage = .holding → ∀ l ∈ t.leases, l.turn = turn →
    ∀ l' ∈ t.leases, l'.session = l.session → l'.stage ≠ .holding) :
    (t.setStage turn stage).Sound where
  turns := by simpa [leases_setStage, Function.comp_def] using h.turns
  sessions := h.sessions
  locks := h.locks
  numbered := h.numbered
  leased := by
    simp only [leases_setStage, List.forall_mem_map, restage_session, restage_lock]
    exact h.leased
  used := by
    intro entry he
    obtain ⟨l, hl, hsession⟩ := h.used entry he
    exact ⟨restage turn stage l, List.mem_map_of_mem hl, by simpa using hsession⟩
  exclusive := by
    simp only [leases_setStage, List.forall_mem_map, restage_session]
    intro l hl l' hl' hsession hstage hstage'
    refine congrArg _ ?_
    by_cases hturn : l.turn = turn <;> by_cases hturn' : l'.turn = turn
    · exact h.lease_eq hl hl' (hturn.trans hturn'.symm)
    · rw [restage, if_pos hturn] at hstage
      rw [restage, if_neg hturn'] at hstage'
      exact (hfree hstage l hl hturn l' hl' hsession.symm hstage').elim
    · rw [restage, if_neg hturn] at hstage
      rw [restage, if_pos hturn'] at hstage'
      exact (hfree hstage' l' hl' hturn' l hl hsession hstage).elim
    · rw [restage, if_neg hturn] at hstage
      rw [restage, if_neg hturn'] at hstage'
      exact h.exclusive l hl l' hl' hsession hstage hstage'

theorem leases_drop (t : LockTable) (turn : Nat) :
    (t.drop turn).leases = t.leases.filter (·.turn ≠ turn) := by
  rw [drop]
  split
  · rename_i hnone
    exact (List.filter_eq_self.2 (by simpa using lease?_eq_none_iff.1 hnone)).symm
  · rfl

/-- A drop leaves the entries of other sessions as they are, and its own one as long as another
lease of the session is live. -/
theorem Sound.mem_locks_drop_iff (h : t.Sound) (hlease : t.lease? turn = some l)
    {entry : String × Nat} : entry ∈ (t.drop turn).locks ↔ entry ∈ t.locks ∧
      (entry.1 = l.session → ∃ l' ∈ t.leases, l'.session = l.session ∧ l' ≠ l) := by
  have hreferences := h.references_le_iff (mem_of_lease? hlease).1
  simp only [LockTable.drop, hlease]
  split
  · rename_i hle
    have honly := hreferences.1 hle
    simp only [List.mem_filter, decide_eq_true_eq]
    refine and_congr_right fun _ => ⟨fun hne heq => (hne heq).elim, fun hother heq => ?_⟩
    obtain ⟨l', hl', hsession, hne⟩ := hother heq
    exact hne (honly l' hl' hsession)
  · rename_i hgt
    have hother := mt hreferences.2 hgt
    push Not at hother
    exact ⟨fun hentry => ⟨hentry, fun _ => hother⟩, fun hentry => hentry.1⟩

theorem locks_drop_sublist (t : LockTable) (turn : Nat) :
    (t.drop turn).locks.Sublist t.locks := by
  rw [drop]
  split
  · exact .refl _
  · dsimp only
    split
    · exact List.filter_sublist
    · exact .refl _

theorem Sound.drop (h : t.Sound) (hlease : t.lease? turn = some l) : (t.drop turn).Sound := by
  obtain ⟨hl, hturn⟩ := mem_of_lease? hlease
  have hlocks := locks_drop_sublist t turn
  have hleases : ∀ l', l' ∈ (t.drop turn).leases ↔ l' ∈ t.leases ∧ l' ≠ l := by
    intro l'
    rw [leases_drop, List.mem_filter, decide_eq_true_eq]
    refine and_congr_right fun hl' => not_congr ⟨fun heq => ?_, fun heq => heq ▸ hturn⟩
    exact h.lease_eq hl' hl (heq.trans hturn.symm)
  exact {
    turns := h.turns.sublist (leases_drop t turn ▸ List.filter_sublist.map _)
    sessions := h.sessions.sublist (hlocks.map _)
    locks := h.locks.sublist (hlocks.map _)
    numbered := by
      intro entry he
      have hfresh : (t.drop turn).fresh = t.fresh := by rw [LockTable.drop, hlease]
      rw [hfresh]
      exact h.numbered entry (hlocks.subset he)
    leased := by
      intro l' hl'
      obtain ⟨hl', hne⟩ := (hleases l').1 hl'
      exact (h.mem_locks_drop_iff hlease).2
        ⟨h.leased l' hl', fun hsession => ⟨l', hl', hsession, hne⟩⟩
    used := by
      intro entry he
      obtain ⟨he, hother⟩ := (h.mem_locks_drop_iff hlease).1 he
      by_cases hsession : entry.1 = l.session
      · obtain ⟨l', hl', hsession', hne⟩ := hother hsession
        exact ⟨l', (hleases l').2 ⟨hl', hne⟩, hsession'.trans hsession.symm⟩
      · obtain ⟨l', hl', hsession'⟩ := h.used entry he
        refine ⟨l', (hleases l').2 ⟨hl', ?_⟩, hsession'⟩
        rintro rfl
        exact hsession hsession'.symm
    exclusive := by
      intro l₁ hl₁ l₂ hl₂
      exact h.exclusive l₁ ((hleases l₁).1 hl₁).1 l₂ ((hleases l₂).1 hl₂).1 }

/-- A lock that nobody holds may be had by one of those who wait for it. -/
theorem Sound.acquire (h : t.Sound) (hlease : t.lease? turn = some l)
    (hfree : t.isHeld l.lock = false) : (t.setStage turn .holding).Sound := by
  obtain ⟨hl, hturn⟩ := mem_of_lease? hlease
  refine h.setStage fun _ l₁ hl₁ hturn₁ l' hl' hsession hstage => ?_
  obtain rfl := h.lease_eq hl₁ hl (hturn₁.trans hturn.symm)
  have hlock := (h.lock_eq_iff hl' hl).2 hsession
  have hheld : t.isHeld l₁.lock = true :=
    List.any_eq_true.2 ⟨l', hl', by simp [hlock, hstage]⟩
  rw [hheld] at hfree
  cases hfree

theorem Step.sound {a : Act} (h : Step t a t') (ht : t.Sound) : t'.Sound := by
  cases h with
  | checkOut hnew => exact ht.checkOut hnew
  | acquire hlease hwaits hfree => exact ht.acquire hlease hfree
  | release hlease hholds => exact ht.setStage nofun
  | drop hlease hidle => exact ht.drop hlease

theorem Step.mem_leases_iff {a : Act} (h : Step t a t') (hne : l.turn ≠ a.turn) :
    l ∈ t'.leases ↔ l ∈ t.leases := by
  cases h with
  | @checkOut turn session hnew =>
    obtain ⟨lock, hmem⟩ := exists_mem_leases_checkOut_iff t turn session
    have hother : l ≠ ⟨turn, session, lock, .waiting⟩ := fun heq => hne (by rw [heq, Act.turn])
    rw [hmem, or_iff_left hother]
  | acquire _ _ _ => exact mem_setStage_iff hne
  | release _ _ => exact mem_setStage_iff hne
  | drop _ _ =>
    rw [leases_drop, List.mem_filter, decide_eq_true_eq]
    exact and_iff_left hne

/-- Once it is checked out a lease stays with its turn and its session, and it is never waiting
again. -/
theorem Step.exists_lease {a : Act} (h : Step t a t')
    (hcome : ∀ turn session, a ≠ .checkOut turn session) (hl' : l' ∈ t'.leases) :
    ∃ l ∈ t.leases, l.turn = l'.turn ∧ l.session = l'.session ∧
      (l'.stage = .waiting → l.stage = .waiting) := by
  by_cases hturn : l'.turn = a.turn
  · cases h with
    | checkOut _ => exact (hcome _ _ rfl).elim
    | acquire _ _ _ =>
      have hstage := stage_of_mem_setStage hl' hturn
      obtain ⟨l, hl, rfl⟩ := List.mem_map.1 hl'
      exact ⟨l, hl, restage_turn.symm, restage_session.symm, fun h => by cases hstage.symm.trans h⟩
    | release _ _ =>
      have hstage := stage_of_mem_setStage hl' hturn
      obtain ⟨l, hl, rfl⟩ := List.mem_map.1 hl'
      exact ⟨l, hl, restage_turn.symm, restage_session.symm, fun h => by cases hstage.symm.trans h⟩
    | drop _ _ =>
      rw [leases_drop] at hl'
      exact ⟨l', List.mem_of_mem_filter hl', rfl, rfl, id⟩
  · exact ⟨l', (h.mem_leases_iff hturn).1 hl', rfl, rfl, id⟩

/-- All that a turn does with a lock it holds is to let go of it, and then all it does is leave. -/
theorem Step.own {a : Act} (h : Step t a t') (ht : t.Sound)
    (hcome : ∀ turn session, a ≠ .checkOut turn session) (hl : l ∈ t.leases)
    (hturn : l.turn = a.turn) :
    (l.stage = .holding → a = .release l.turn) ∧ (l.stage = .released → a = .drop l.turn) := by
  have hown : ∀ l', t.lease? a.turn = some l' → l' = l := by
    intro l' hlease
    obtain ⟨hl', hturn'⟩ := mem_of_lease? hlease
    exact ht.lease_eq hl' hl (hturn'.trans hturn.symm)
  cases h with
  | checkOut _ => exact (hcome _ _ rfl).elim
  | acquire hlease hwaits _ =>
    obtain rfl := hown _ hlease
    simp [hwaits]
  | release hlease hholds =>
    obtain rfl := hown _ hlease
    simp [hholds, hturn, Act.turn]
  | drop hlease hidle =>
    obtain rfl := hown _ hlease
    simp [hidle, hturn, Act.turn]

/-- Getting the lock in the order of arrival is a way to get it. -/
theorem step_of_acquire? (h : t.acquire? turn = some t') : Step t (.acquire turn) t' := by
  rw [acquire?] at h
  split at h
  · rename_i l hlease
    split at h
    · rename_i hmay
      cases h
      exact .acquire hlease hmay.1 (by simpa using hmay.2.1)
    · cases h
  · cases h

end LockTable

end Dialogue
