import Dialogue.Conversation.Floor
import Dialogue.Proofs.Leases
import Mathlib.Logic.Relation

namespace Dialogue

variable {H σ α : Type}

namespace LockTable

def LeadsTo : LockTable → LockTable → Prop :=
  Relation.ReflTransGen fun t t' => ∃ a, Step t a t'

variable {t : LockTable} {turn : Nat} {l : Lease} {stage : LeaseStage}

theorem lease?_setStage (t : LockTable) (turn : Nat) (stage : LeaseStage) :
    (t.setStage turn stage).lease? turn = (t.lease? turn).map (restage turn stage) := by
  rw [lease?, leases_setStage, List.find?_map, lease?]
  simp only [Function.comp_def, restage_turn]

/-- Letting go of a lock and dropping the lease are two steps. -/
theorem leadsTo_leave (hlease : t.lease? turn = some l) (hholds : l.stage = .holding) :
    t.LeadsTo ((t.release turn).drop turn) := by
  have hreleased := lease?_setStage t turn .released
  rw [hlease, Option.map_some] at hreleased
  have hstage := stage_of_mem_setStage (mem_of_lease? hreleased).1 (mem_of_lease? hreleased).2
  refine .head ⟨_, .release hlease hholds⟩ (.single ⟨_, .drop hreleased ?_⟩)
  rw [hstage]
  decide

theorem mem_leases_leave_iff :
    l ∈ ((t.release turn).drop turn).leases ↔ l ∈ t.leases ∧ l.turn ≠ turn := by
  rw [leases_drop, List.mem_filter, decide_eq_true_eq]
  exact and_congr_left mem_setStage_iff

theorem LeadsTo.sound {t' : LockTable} (h : t.LeadsTo t') (ht : t.Sound) : t'.Sound := by
  induction h with
  | refl => exact ht
  | tail _ hstep ih => exact hstep.choose_spec.sound ih

theorem Step.holds_of_acquire {t' : LockTable} (h : Step t (.acquire turn) t') : t'.Holds turn := by
  cases h with
  | acquire hlease hwaits hfree =>
    have hheld := lease?_setStage t turn .holding
    rw [hlease, Option.map_some] at hheld
    obtain ⟨hl, hturn⟩ := mem_of_lease? hheld
    exact ⟨_, hl, hturn, stage_of_mem_setStage hl hturn⟩

end LockTable

namespace Move

def starts : Move H α → Bool
  | .arrive => true
  | .acquire | .resume _ | .beginCall _ _ => false

def goesOn : Move H α → Bool
  | .resume _ | .beginCall _ _ => true
  | .arrive | .acquire => false

end Move

namespace Floor

def Waits (f : Floor H σ α) (turn : Nat) (session : String) : Prop :=
  ∃ r, f.runners[turn]? = some r ∧ r.waits = true ∧ r.session = session

def Absent (f : Floor H σ α) (turn : Nat) : Prop :=
  ∀ entry ∈ f.agenda, entry.2.1 = turn → entry.2.2.starts = false ∧ entry.2.2.goesOn = false

/-- Whether a turn that waits for others has come to hold the lock. -/
def MayGoOn (f : Floor H σ α) (turn : Nat) : Prop :=
  ∀ session, f.Waits turn session → f.locks.Holds turn

/-- What holds between the agenda and the table: a lease is that of a turn that waits for others of
its session, a turn is on the agenda once, without a lease if it is to come and with the lock if it
is to go on. -/
structure InOrder (f : Floor H σ α) : Prop where
  sound : f.locks.Sound
  own : ∀ l ∈ f.locks.leases, f.Waits l.turn l.session
  once : ((f.agenda.filter fun e => e.2.2.starts || e.2.2.goesOn).map (·.2.1)).Nodup
  toCome : ∀ entry ∈ f.agenda, entry.2.2.starts = true → ∀ l ∈ f.locks.leases, l.turn ≠ entry.2.1
  toGoOn : ∀ entry ∈ f.agenda, entry.2.2.goesOn = true → f.MayGoOn entry.2.1

/-- A floor that is in order again, after steps that turns may do at the table. -/
structure Advances (f f' : Floor H σ α) : Prop where
  inOrder : f'.InOrder
  leads : f.locks.LeadsTo f'.locks

variable {v : Venue H σ} {f f' f'' : Floor H σ α} {time turn : Nat} {m : Move H α}

theorem Advances.trans (h : f.Advances f') (h' : f'.Advances f'') : f.Advances f'' :=
  ⟨h'.inOrder, h.leads.trans h'.leads⟩

theorem perm_agenda_plan (f : Floor H σ α) (time turn : Nat) (m : Move H α) :
    (f.plan time turn m).agenda.Perm ((time, turn, m) :: f.agenda) := by
  refine List.perm_middle.trans ?_
  rw [List.takeWhile_append_dropWhile]

/-- A move may be planned for a turn that is not on the agenda. -/
theorem InOrder.plan (h : f.InOrder)
    (habsent : m.starts = true ∨ m.goesOn = true → f.Absent turn)
    (hstarts : m.starts = true → ∀ l ∈ f.locks.leases, l.turn ≠ turn)
    (hgoes : m.goesOn = true → f.MayGoOn turn) : f.Advances (f.plan time turn m) := by
  have hperm := perm_agenda_plan f time turn m
  refine ⟨⟨h.sound, h.own, ?_, ?_, ?_⟩, .refl⟩
  · rw [((hperm.filter _).map _).nodup_iff, List.filter_cons]
    split
    · rename_i hm
      rw [List.map_cons, List.nodup_cons]
      refine ⟨fun hmem => ?_, h.once⟩
      obtain ⟨entry, hentry, hturn⟩ := List.mem_map.1 hmem
      obtain ⟨hentry, howns⟩ := List.mem_filter.1 hentry
      obtain ⟨hstart, hgo⟩ := habsent (by simpa using hm) entry hentry hturn
      simp [hstart, hgo] at howns
    · exact h.once
  · intro entry hentry hstart
    rcases List.mem_cons.1 (hperm.mem_iff.1 hentry) with rfl | hentry
    · exact hstarts hstart
    · exact h.toCome entry hentry hstart
  · intro entry hentry hgo
    rcases List.mem_cons.1 (hperm.mem_iff.1 hentry) with rfl | hentry
    · exact hgoes hgo
    · exact h.toGoOn entry hentry hgo

theorem InOrder.leave (h : f.InOrder) {l : Lease} (habsent : f.Absent turn)
    (hlease : f.locks.lease? turn = some l) (hholds : l.stage = .holding) :
    f.Advances { f with locks := (f.locks.release turn).drop turn } := by
  have hleads := LockTable.leadsTo_leave hlease hholds
  refine ⟨⟨hleads.sound h.sound, ?_, h.once, ?_, ?_⟩, hleads⟩
  · exact fun l hl => h.own l (LockTable.mem_leases_leave_iff.1 hl).1
  · exact fun entry hentry hstart l hl =>
      h.toCome entry hentry hstart l (LockTable.mem_leases_leave_iff.1 hl).1
  · intro entry hentry hgo session hwaits
    obtain ⟨l, hl, hturn, hstage⟩ := h.toGoOn entry hentry hgo session hwaits
    refine ⟨l, LockTable.mem_leases_leave_iff.2 ⟨hl, fun heq => ?_⟩, hturn, hstage⟩
    have hstays := (habsent entry hentry (hturn.symm.trans heq)).2
    rw [hgo] at hstays
    cases hstays

theorem waits_outcome (f : Floor H σ α) (turn : Nat) (outcome : α) (i : Nat) (session : String) :
    Waits { f with runners := f.runners.modify turn fun r => { r with outcome := some outcome } }
      i session ↔ f.Waits i session := by
  simp only [Waits, List.getElem?_modify]
  split <;> simp

/-- What a floor answers or notes changes nothing about its order. -/
theorem InOrder.congr (h : f.InOrder) (hlocks : f'.locks = f.locks) (hagenda : f'.agenda = f.agenda)
    (hwaits : ∀ i session, f'.Waits i session ↔ f.Waits i session) : f.Advances f' := by
  refine ⟨⟨?_, ?_, ?_, ?_, ?_⟩, hlocks ▸ .refl⟩
  · exact hlocks ▸ h.sound
  · rw [hlocks]
    exact fun l hl => (hwaits _ _).2 (h.own l hl)
  · exact hagenda ▸ h.once
  · rw [hlocks, hagenda]
    exact h.toCome
  · rw [hagenda]
    intro entry hentry hgo session hw
    rw [hlocks]
    exact h.toGoOn entry hentry hgo session ((hwaits _ _).1 hw)

/-- A turn that ends leaves, and one that has waited for it is told. -/
theorem InOrder.finish (h : f.InOrder) (habsent : f.Absent turn) (hgoes : f.MayGoOn turn)
    (outcome : α) : f.Advances (f.finish time turn outcome) := by
  have hmarked : f.Advances
      { f with runners := f.runners.modify turn fun r => { r with outcome := some outcome } } :=
    h.congr rfl rfl (waits_outcome f turn outcome)
  rw [Floor.finish]
  split
  · exact hmarked
  · rename_i l hlease
    obtain ⟨hl, hturn⟩ := LockTable.mem_of_lease? hlease
    have hholds : l.stage = .holding := by
      obtain ⟨l', hl', hturn', hstage⟩ := hgoes l.session (hturn ▸ h.own l hl)
      rwa [h.sound.lease_eq hl hl' (hturn.trans hturn'.symm)]
    have hleft := hmarked.trans (hmarked.inOrder.leave habsent hlease hholds)
    dsimp only
    split
    · exact hleft.trans (hleft.inOrder.plan nofun nofun nofun)
    · exact hleft

/-- A turn that holds the lock, or does not wait for others, may go on. -/
theorem InOrder.proceed (h : f.InOrder) (habsent : f.Absent turn) (hgoes : f.MayGoOn turn)
    (c : Exchange H α) : f.Advances (f.proceed v time turn c) := by
  rw [Floor.proceed]
  split
  · rename_i state outcome _
    have hanswered : f.Advances { f with state } := h.congr rfl rfl fun _ _ => .rfl
    exact hanswered.trans (hanswered.inOrder.finish habsent hgoes outcome)
  · rename_i state call next _
    have hanswered : f.Advances { f with state } := h.congr rfl rfl fun _ _ => .rfl
    exact hanswered.trans (hanswered.inOrder.plan (fun _ => habsent) nofun fun _ => hgoes)

/-- A turn that waits for the lock is not on the agenda but to be told. -/
theorem InOrder.absent_of_waiting (h : f.InOrder) {l : Lease}
    (hlease : f.locks.lease? turn = some l) (hwaits : l.stage = .waiting) : f.Absent turn := by
  obtain ⟨hl, hturn⟩ := LockTable.mem_of_lease? hlease
  rintro entry hentry rfl
  constructor
  · rw [Bool.eq_false_iff]
    exact fun hstart => h.toCome entry hentry hstart l hl hturn
  · rw [Bool.eq_false_iff]
    intro hgo
    obtain ⟨l', hl', hturn', hstage⟩ := h.toGoOn entry hentry hgo l.session (hturn ▸ h.own l hl)
    rw [h.sound.lease_eq hl' hl (hturn'.trans hturn.symm), hwaits] at hstage
    cases hstage

/-- A turn goes on when it gets the lock, and stays as it is when it does not. -/
theorem InOrder.enter (h : f.InOrder) (c : Exchange H α) :
    f.Advances (f.enter v time turn c) := by
  rw [Floor.enter]
  split
  · rename_i locks hacquire
    have hstep := LockTable.step_of_acquire? hacquire
    have hlease : ∀ l' ∈ locks.leases, ∃ l ∈ f.locks.leases, l.turn = l'.turn ∧
        l.session = l'.session ∧ (l'.stage = .waiting → l.stage = .waiting) :=
      fun l' hl' => hstep.exists_lease nofun hl'
    have hentered : f.Advances { f with locks } := by
      refine ⟨⟨hstep.sound h.sound, ?_, h.once, ?_, ?_⟩, .single ⟨_, hstep⟩⟩
      · intro l' hl'
        obtain ⟨l, hl, hturn, hsession, -⟩ := hlease l' hl'
        rw [← hturn, ← hsession]
        exact h.own l hl
      · intro entry hentry hstart l' hl'
        obtain ⟨l, hl, hturn, -⟩ := hlease l' hl'
        exact hturn ▸ h.toCome entry hentry hstart l hl
      · intro entry hentry hgo session hwaits
        obtain ⟨l, hl, hturn, hstage⟩ := h.toGoOn entry hentry hgo session hwaits
        -- A turn that gets the lock has waited for it, so it is not the one that holds one already.
        have hother : l.turn ≠ (LockTable.Act.acquire turn).turn := fun hown => by
          cases (hstep.own h.sound nofun hl hown).1 hstage
        exact ⟨l, (hstep.mem_leases_iff hother).2 hl, hturn, hstage⟩
    have habsent : f.Absent turn := by
      cases hstep with
      | acquire hwaiting hwaits _ => exact h.absent_of_waiting hwaiting hwaits
    exact hentered.trans
      (hentered.inOrder.proceed habsent (fun _ _ => hstep.holds_of_acquire) c)
  · exact ⟨h, .refl⟩

theorem InOrder.arrive (h : f.InOrder) {r : Runner H α} (habsent : f.Absent turn)
    (hnew : ∀ l ∈ f.locks.leases, l.turn ≠ turn) (hr : f.runners[turn]? = some r)
    (hwaits : r.waits = true) :
    f.Advances { f with locks := f.locks.checkOut turn r.session } := by
  have hstep : LockTable.Step f.locks (.checkOut turn r.session)
      (f.locks.checkOut turn r.session) := .checkOut (LockTable.lease?_eq_none_iff.2 hnew)
  obtain ⟨lock, hmem⟩ := LockTable.exists_mem_leases_checkOut_iff f.locks turn r.session
  refine ⟨⟨hstep.sound h.sound, ?_, h.once, ?_, ?_⟩, .single ⟨_, hstep⟩⟩
  · intro l hl
    rcases (hmem l).1 hl with hl | rfl
    · exact h.own l hl
    · exact ⟨r, hr, hwaits, rfl⟩
  · intro entry hentry hstart l hl
    rcases (hmem l).1 hl with hl | rfl
    · exact h.toCome entry hentry hstart l hl
    · intro hturn
      cases hstart.symm.trans (habsent entry hentry hturn.symm).1
  · intro entry hentry hgo session hw
    obtain ⟨l, hl, hturn, hstage⟩ := h.toGoOn entry hentry hgo session hw
    exact ⟨l, (hmem l).2 (.inl hl), hturn, hstage⟩

/-- A turn may make the move that was on the agenda for it. -/
theorem InOrder.act (h : f.InOrder) {r : Runner H α} (hr : f.runners[turn]? = some r)
    (habsent : m.starts = true ∨ m.goesOn = true → f.Absent turn)
    (hstarts : m.starts = true → ∀ l ∈ f.locks.leases, l.turn ≠ turn)
    (hgoes : m.goesOn = true → f.MayGoOn turn) : f.Advances (f.act v time turn r m) := by
  cases m with
  | arrive =>
    have habsent := habsent (.inl rfl)
    rw [Floor.act]
    split
    · rename_i hwaits
      have harrived := h.arrive habsent (hstarts rfl) hr hwaits
      exact harrived.trans (harrived.inOrder.enter r.course)
    · rename_i hwaits
      refine h.proceed habsent ?_ r.course
      rintro session ⟨r', hr', hwaits', -⟩
      obtain rfl : r' = r := Option.some.inj (hr'.symm.trans hr)
      exact (hwaits hwaits').elim
  | acquire => exact h.enter r.course
  | resume c => exact h.proceed (habsent (.inr rfl)) (hgoes rfl) c
  | beginCall call next =>
    rw [Floor.act]
    split
    rename_i result elapsed state _
    have hbegun : f.Advances { f with state } := h.congr rfl rfl fun _ _ => .rfl
    exact hbegun.trans (hbegun.inOrder.plan habsent nofun fun _ => hgoes rfl)

/-- The first move on the agenda leaves the floor in order. -/
theorem InOrder.step? (h : f.InOrder) (hstep : f.step? v = some f') : f.Advances f' := by
  rw [Floor.step?] at hstep
  split at hstep
  · cases hstep
  · rename_i time turn m rest hagenda
    have hfirst : (time, turn, m) ∈ f.agenda := hagenda ▸ List.mem_cons_self
    have hrest : ∀ entry ∈ rest, entry ∈ f.agenda := fun entry hentry =>
      hagenda ▸ List.mem_cons_of_mem _ hentry
    have honce := h.once
    rw [hagenda, List.filter_cons] at honce
    have hleft : f.Advances { f with agenda := rest } := by
      refine ⟨⟨h.sound, h.own, ?_, fun entry hentry => h.toCome entry (hrest entry hentry),
        fun entry hentry => h.toGoOn entry (hrest entry hentry)⟩, .refl⟩
      split at honce
      · exact honce.of_cons
      · exact honce
    have habsent (hm : m.starts = true ∨ m.goesOn = true) :
        Absent { f with agenda := rest } turn := by
      -- It was on the agenda once, and that was the move that is made now.
      rw [if_pos (by simpa using hm), List.map_cons, List.nodup_cons] at honce
      intro entry hentry hturn
      rw [← Bool.or_eq_false_iff, Bool.eq_false_iff]
      exact fun hown => honce.1 (List.mem_map.2 ⟨entry, List.mem_filter.2 ⟨hentry, hown⟩, hturn⟩)
    dsimp only at hstep
    split at hstep
    · rename_i r hr
      cases hstep
      exact hleft.trans (hleft.inOrder.act hr habsent (h.toCome _ hfirst) (h.toGoOn _ hfirst))
    · cases hstep
      exact hleft

theorem foldl_plan (arrivals : List ((Nat × Runner H α) × Nat)) (f : Floor H σ α) :
    let planned := arrivals.foldl (fun f a => f.plan a.1.1 a.2 .arrive) f
    planned.locks = f.locks ∧
      planned.agenda.Perm (arrivals.map (fun a => (a.1.1, a.2, .arrive)) ++ f.agenda) := by
  induction arrivals generalizing f with
  | nil => exact ⟨rfl, .refl _⟩
  | cons a arrivals ih =>
    obtain ⟨hlocks, hperm⟩ := ih (f.plan a.1.1 a.2 .arrive)
    refine ⟨hlocks, hperm.trans ?_⟩
    refine ((perm_agenda_plan f a.1.1 a.2 .arrive).append_left _).trans ?_
    exact List.perm_middle

theorem locks_start (state : σ) (arrivals : List (Nat × Runner H α)) :
    (start state arrivals).locks = {} :=
  (foldl_plan arrivals.zipIdx _).1

theorem perm_agenda_start (state : σ) (arrivals : List (Nat × Runner H α)) :
    (start state arrivals).agenda.Perm
      (arrivals.zipIdx.map fun a => (a.1.1, a.2, .arrive)) := by
  have hperm := (foldl_plan arrivals.zipIdx
    ({ state, runners := arrivals.map (·.2) } : Floor H σ α)).2
  rwa [List.append_nil] at hperm

theorem start_inOrder (state : σ) (arrivals : List (Nat × Runner H α)) :
    (start state arrivals).InOrder := by
  have hperm := perm_agenda_start state arrivals
  have hgoes : ∀ entry ∈ (start state arrivals).agenda, entry.2.2.goesOn = false := by
    intro entry hentry
    obtain ⟨a, -, rfl⟩ := List.mem_map.1 (hperm.mem_iff.1 hentry)
    rfl
  refine ⟨?_, ?_, ?_, ?_, ?_⟩
  · rw [locks_start]
    exact LockTable.sound_empty
  · rw [locks_start]
    exact nofun
  · refine List.Nodup.sublist (List.filter_sublist.map _) ?_
    rw [(hperm.map _).nodup_iff, List.map_map]
    have hturns := List.nodup_range' (s := 0) (n := arrivals.length)
    rwa [← List.zipIdx_map_snd 0 arrivals] at hturns
  · rw [locks_start]
    exact fun _ _ _ => nofun
  · intro entry hentry hgo
    rw [hgoes entry hentry] at hgo
    cases hgo

theorem Waits.session_eq {session session' : String} (h : f.Waits turn session)
    (h' : f.Waits turn session') : session = session' := by
  obtain ⟨r, hr, -, rfl⟩ := h
  obtain ⟨r', hr', -, rfl⟩ := h'
  rw [Option.some.inj (hr.symm.trans hr')]

theorem InOrder.goesOn_unique (h : f.InOrder) {entry entry' : Nat × Nat × Move H α}
    {session : String} (hentry : entry ∈ f.agenda) (hgo : entry.2.2.goesOn = true)
    (hwaits : f.Waits entry.2.1 session) (hentry' : entry' ∈ f.agenda)
    (hgo' : entry'.2.2.goesOn = true) (hwaits' : f.Waits entry'.2.1 session) :
    entry.2.1 = entry'.2.1 := by
  obtain ⟨l, hl, hturn, hstage⟩ := h.toGoOn entry hentry hgo session hwaits
  obtain ⟨l', hl', hturn', hstage'⟩ := h.toGoOn entry' hentry' hgo' session hwaits'
  have hsession : l.session = l'.session :=
    ((hturn ▸ h.own l hl).session_eq hwaits).trans ((hturn' ▸ h.own l' hl').session_eq hwaits').symm
  rw [← hturn, ← hturn', h.sound.exclusive l hl l' hl' hsession hstage hstage']

/-- In whatever order turns arrive and however long their calls take: the table goes through steps
that turns may do, and of the turns of a session that wait for each other one at most is to go
on. -/
theorem one_goes_on {state : σ} {arrivals : List (Nat × Runner H α)}
    (h : Relation.ReflTransGen (fun f f' => f.step? v = some f') (start state arrivals) f) :
    LockTable.LeadsTo {} f.locks ∧ f.locks.Sound ∧
      ∀ entry ∈ f.agenda, ∀ entry' ∈ f.agenda, entry.2.2.goesOn = true → entry'.2.2.goesOn = true →
        ∀ session, f.Waits entry.2.1 session → f.Waits entry'.2.1 session →
          entry.2.1 = entry'.2.1 := by
  have hadvances : (start state arrivals).Advances f := by
    induction h with
    | refl => exact ⟨start_inOrder state arrivals, .refl⟩
    | tail _ hstep ih => exact ih.trans (ih.inOrder.step? hstep)
  obtain ⟨horder, hleads⟩ := hadvances
  rw [locks_start] at hleads
  exact ⟨hleads, horder.sound, fun entry hentry entry' hentry' hgo hgo' session hwaits hwaits' =>
    horder.goesOn_unique hentry hgo hwaits hentry' hgo' hwaits'⟩

end Floor

end Dialogue
