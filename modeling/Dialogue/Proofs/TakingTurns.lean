import Dialogue.Proofs.Leases
import Dialogue.Proofs.Serializable

namespace Dialogue

open Interaction

variable {H : Type}

def Op.waits : Op H → Bool
  | .turn _ _ _ => true
  | .cancel _ => false

/-- What happens in a service, one thing after the other: a turn does something at the table of
locks, a call asks its next question, or the store is written from elsewhere. -/
inductive Deed (H : Type) where
  | act (a : LockTable.Act)
  | ask (e : Event Nat H)
  | elsewhere

/-- Calls on a store with the locks of their sessions, and the turns that have come so far. -/
structure Service (H : Type) where
  world : World Nat H
  table : LockTable := {}
  arrived : List Nat := []

namespace Service

def opening (store : SessionStore) (ops : Nat → Op H) : Service H where
  world := World.before store ops

/-- The steps of a service. A turn comes once; it asks while it holds the lock of its session, and
it may let go of it at any time, whether it is over or is given up. -/
inductive Step (ops : Nat → Op H) : Service H → Deed H → Service H → Prop
  | arrive {s : Service H} {i : Nat} (hwaits : (ops i).waits = true) (hnew : i ∉ s.arrived) :
      Step ops s (.act (.checkOut i (ops i).key))
        { s with table := s.table.checkOut i (ops i).key, arrived := i :: s.arrived }
  | act {s : Service H} {a : LockTable.Act} {t : LockTable}
      (hcome : ∀ i session, a ≠ .checkOut i session) (h : LockTable.Step s.table a t) :
      Step ops s (.act a) { s with table := t }
  | ask {s : Service H} {e : Event Nat H} {w : World Nat H}
      (hholds : (ops e.caller).waits = true → s.table.Holds e.caller) (h : World.Step s.world e w) :
      Step ops s (.ask e) { s with world := w }
  | elsewhere (s : Service H) (store : SessionStore) :
      Step ops s .elsewhere { s with world := { s.world with store } }

/-- Steps in any order. -/
inductive Run (ops : Nat → Op H) : Service H → List (Deed H) → Service H → Prop
  | nil (s : Service H) : Run ops s [] s
  | cons {s s' s'' : Service H} {d : Deed H} {ds : List (Deed H)} (h : Step ops s d s')
      (hrest : Run ops s' ds s'') : Run ops s (d :: ds) s''

def asked (ds : List (Deed H)) : List (Event Nat H) :=
  ds.filterMap fun
    | .ask e => some e
    | .act _ => none
    | .elsewhere => none

/-- Whether a turn is between its load and its save: it has loaded its session, it has not come to
an end, and it was not given up. -/
def Amid (ops : Nat → Op H) (ds : List (Deed H)) (s : Service H) (i : Nat) : Prop :=
  (ops i).waits = true ∧
    (∃ e ∈ World.transcript i (asked ds), e.question = .load (ops i).key) ∧
    (∀ result, s.world.calls i ≠ .done result) ∧
    ∃ l ∈ s.table.leases, l.turn = i ∧ l.stage ≠ .released

/-- Whether a turn has let go of its lock, or was given up before it had it. -/
def Gone (s : Service H) (i : Nat) : Prop :=
  i ∈ s.arrived ∧ ∀ l ∈ s.table.leases, l.turn = i → l.stage = .released

/-- What holds of a service after some questions: its table is sound, its leases are those of turns
that have come, each for its own session, and a turn that has not come or still waits has asked
nothing. -/
structure Orderly (ops : Nat → Op H) (es : List (Event Nat H)) (s : Service H) : Prop where
  sound : s.table.Sound
  arrived : ∀ l ∈ s.table.leases, l.turn ∈ s.arrived
  own : ∀ l ∈ s.table.leases, (ops l.turn).waits = true ∧ l.session = (ops l.turn).key
  absent : ∀ i, (ops i).waits = true → i ∉ s.arrived → World.transcript i es = []
  waiting : ∀ l ∈ s.table.leases, l.stage = .waiting → World.transcript l.turn es = []

variable {ops : Nat → Op H} {store : SessionStore} {s s' s'' : Service H} {d : Deed H}
  {ds ds' ds₁ ds₂ ds₃ : List (Deed H)} {es : List (Event Nat H)} {i j : Nat} {e e' : Event Nat H}

theorem orderly_opening (store : SessionStore) (ops : Nat → Op H) :
    Orderly ops [] (opening store ops) where
  sound := LockTable.sound_empty
  arrived := nofun
  own := nofun
  absent := fun _ _ _ => rfl
  waiting := nofun

theorem run_append_iff :
    Run ops s (ds ++ ds') s'' ↔ ∃ s', Run ops s ds s' ∧ Run ops s' ds' s'' := by
  constructor
  · induction ds generalizing s with
    | nil => exact fun h => ⟨s, .nil s, h⟩
    | cons d ds ih =>
      intro h
      cases h with
      | cons h hrest =>
        obtain ⟨s', h₁, h₂⟩ := ih hrest
        exact ⟨s', .cons h h₁, h₂⟩
  · rintro ⟨s', h₁, h₂⟩
    induction h₁ with
    | nil s => exact h₂
    | cons h hrest ih => exact .cons h (ih h₂)

theorem run_cons_iff : Run ops s (d :: ds) s'' ↔ ∃ s', Step ops s d s' ∧ Run ops s' ds s'' := by
  constructor
  · intro h
    cases h with
    | cons h hrest => exact ⟨_, h, hrest⟩
  · rintro ⟨s', h, hrest⟩
    exact .cons h hrest

theorem asked_append (ds ds' : List (Deed H)) : asked (ds ++ ds') = asked ds ++ asked ds' :=
  List.filterMap_append

@[simp]
theorem asked_act (a : LockTable.Act) : asked [(.act a : Deed H)] = [] := rfl

@[simp]
theorem asked_ask (e : Event Nat H) : asked [.ask e] = [e] := rfl

@[simp]
theorem asked_elsewhere : asked [(.elsewhere : Deed H)] = [] := rfl

theorem Orderly.ask (h : Orderly ops es s) (w : World Nat H)
    (hholds : (ops e.caller).waits = true → s.table.Holds e.caller) :
    Orderly ops (es ++ [e]) { s with world := w } where
  sound := h.sound
  arrived := h.arrived
  own := h.own
  absent := by
    intro i hwaits hnew
    rw [World.transcript_append, h.absent i hwaits hnew, World.transcript_cons, if_neg]
    · rfl
    · rintro rfl
      obtain ⟨l, hl, hturn, -⟩ := hholds hwaits
      exact hnew (hturn ▸ h.arrived l hl)
  waiting := by
    intro l hl hstage
    rw [World.transcript_append, h.waiting l hl hstage, World.transcript_cons, if_neg]
    · rfl
    · intro hcaller
      obtain ⟨l', hl', hturn, hstage'⟩ := hholds (hcaller ▸ (h.own l hl).1)
      rw [h.sound.lease_eq hl' hl (hturn.trans hcaller), hstage] at hstage'
      cases hstage'

theorem Orderly.arrive (h : Orderly ops es s) (hwaits : (ops i).waits = true)
    (hnew : i ∉ s.arrived) : Orderly ops es
      { s with table := s.table.checkOut i (ops i).key, arrived := i :: s.arrived } := by
  have hlease : s.table.lease? i = none := by
    rw [LockTable.lease?_eq_none_iff]
    rintro l hl rfl
    exact hnew (h.arrived l hl)
  obtain ⟨lock, hmem⟩ := LockTable.exists_mem_leases_checkOut_iff s.table i (ops i).key
  exact {
    sound := h.sound.checkOut hlease
    arrived := by
      intro l hl
      rcases (hmem l).1 hl with hl | rfl
      · exact List.mem_cons_of_mem _ (h.arrived l hl)
      · exact List.mem_cons_self
    own := by
      intro l hl
      rcases (hmem l).1 hl with hl | rfl
      · exact h.own l hl
      · exact ⟨hwaits, rfl⟩
    absent := fun j hwaits hj => h.absent j hwaits fun hj' => hj (List.mem_cons_of_mem _ hj')
    waiting := by
      intro l hl hstage
      rcases (hmem l).1 hl with hl | rfl
      · exact h.waiting l hl hstage
      · exact h.absent i hwaits hnew }

/-- What a turn does at the table once it has come leaves it its lease or drops it. -/
theorem Orderly.act (h : Orderly ops es s) {a : LockTable.Act} {t : LockTable}
    (hcome : ∀ i session, a ≠ .checkOut i session) (hstep : LockTable.Step s.table a t) :
    Orderly ops es { s with table := t } := by
  have hlease : ∀ l' ∈ t.leases, ∃ l ∈ s.table.leases, l.turn = l'.turn ∧
      l.session = l'.session ∧ (l'.stage = .waiting → l.stage = .waiting) :=
    fun l' hl' => hstep.exists_lease hcome hl'
  exact {
    sound := hstep.sound h.sound
    arrived := by
      intro l' hl'
      obtain ⟨l, hl, hturn, -⟩ := hlease l' hl'
      exact hturn ▸ h.arrived l hl
    own := by
      intro l' hl'
      obtain ⟨l, hl, hturn, hsession, -⟩ := hlease l' hl'
      rw [← hturn, ← hsession]
      exact h.own l hl
    absent := h.absent
    waiting := by
      intro l' hl' hstage
      obtain ⟨l, hl, hturn, -, hwaiting⟩ := hlease l' hl'
      rw [← hturn]
      exact h.waiting l hl (hwaiting hstage) }

theorem Step.orderly (h : Step ops s d s') (hs : Orderly ops es s) :
    Orderly ops (es ++ asked [d]) s' := by
  cases h with
  | arrive hwaits hnew => simpa using hs.arrive hwaits hnew
  | act hcome h => simpa using hs.act hcome h
  | ask hholds h => simpa using hs.ask _ hholds
  | elsewhere store => simpa using ⟨hs.sound, hs.arrived, hs.own, hs.absent, hs.waiting⟩

theorem Run.orderly (h : Run ops s ds s') (hs : Orderly ops es s) :
    Orderly ops (es ++ asked ds) s' := by
  induction h generalizing es with
  | nil s => simpa [asked] using hs
  | @cons s s' s'' d ds h hrest ih =>
    rw [← List.singleton_append, asked_append, ← List.append_assoc]
    exact ih (h.orderly hs)

theorem orderly_of_run (h : Run ops (opening store ops) ds s) : Orderly ops (asked ds) s :=
  h.orderly (orderly_opening store ops)

theorem Orderly.holds_unique (h : Orderly ops es s) (hi : s.table.Holds i) (hj : s.table.Holds j)
    (hkey : (ops i).key = (ops j).key) : i = j := by
  obtain ⟨l, hl, rfl, hstage⟩ := hi
  obtain ⟨l', hl', rfl, hstage'⟩ := hj
  have hsession : l.session = l'.session := by rw [(h.own l hl).2, (h.own l' hl').2, hkey]
  rw [h.sound.exclusive l hl l' hl' hsession hstage hstage']

/-- A turn that has asked something holds the lock until it lets go of it. -/
theorem Amid.holds (hi : Amid ops ds s i) (h : Orderly ops (asked ds) s) : s.table.Holds i := by
  obtain ⟨-, ⟨e, he, -⟩, -, l, hl, rfl, hstage⟩ := hi
  refine ⟨l, hl, rfl, ?_⟩
  cases hl' : l.stage with
  | waiting =>
    rw [h.waiting l hl hl'] at he
    cases he
  | holding => rfl
  | released => exact (hstage hl').elim

theorem not_holds_of_gone (h : Gone s i) : ¬ s.table.Holds i := by
  rintro ⟨l, hl, hturn, hstage⟩
  cases hstage.symm.trans (h.2 l hl hturn)

/-- A turn holds the lock until it lets go of it. -/
theorem Step.holds (h : Step ops s d s') (hs : Orderly ops es s) (hi : s.table.Holds i) :
    s'.table.Holds i ∨ Gone s' i := by
  obtain ⟨l, hl, hturn, hstage⟩ := hi
  cases h with
  | @arrive j hwaits hnew =>
    obtain ⟨lock, hmem⟩ := LockTable.exists_mem_leases_checkOut_iff s.table j (ops j).key
    exact .inl ⟨l, (hmem l).2 (.inl hl), hturn, hstage⟩
  | @act a t hcome h =>
    by_cases hown : l.turn = a.turn
    · obtain rfl := (h.own hs.sound hcome hl hown).1 hstage
      cases h with
      | release _ _ =>
        refine .inr ⟨hturn ▸ hs.arrived l hl, fun l' hl' hturn' => ?_⟩
        exact LockTable.stage_of_mem_setStage hl' (hturn'.trans hturn.symm)
    · exact .inl ⟨l, (h.mem_leases_iff hown).2 hl, hturn, hstage⟩
  | ask _ _ => exact .inl ⟨l, hl, hturn, hstage⟩
  | elsewhere _ => exact .inl ⟨l, hl, hturn, hstage⟩

/-- A turn that has let go of the lock does not come back. -/
theorem Step.gone (h : Step ops s d s') (hs : Orderly ops es s) (hi : Gone s i) : Gone s' i := by
  obtain ⟨hcame, hgone⟩ := hi
  cases h with
  | @arrive j hwaits hnew =>
    obtain ⟨lock, hmem⟩ := LockTable.exists_mem_leases_checkOut_iff s.table j (ops j).key
    refine ⟨List.mem_cons_of_mem _ hcame, fun l hl hturn => ?_⟩
    rcases (hmem l).1 hl with hl | rfl
    · exact hgone l hl hturn
    · cases hturn
      exact (hnew hcame).elim
  | @act a t hcome h =>
    refine ⟨hcame, fun l' hl' hturn' => ?_⟩
    by_cases hown : l'.turn = a.turn
    · obtain ⟨l, hl, hturn, -⟩ := h.exists_lease hcome hl'
      have hstage := hgone l hl (hturn.trans hturn')
      obtain rfl := (h.own hs.sound hcome hl (hturn.trans hown)).2 hstage
      cases h with
      | drop _ _ => simp [LockTable.leases_drop, hturn] at hl'
    · exact hgone l' ((h.mem_leases_iff hown).1 hl') hturn'
  | ask _ _ => exact ⟨hcame, hgone⟩
  | elsewhere _ => exact ⟨hcame, hgone⟩

theorem Run.gone (h : Run ops s ds s') (hs : Orderly ops es s) (hi : Gone s i) : Gone s' i := by
  induction h generalizing es with
  | nil s => exact hi
  | cons h hrest ih => exact ih (h.orderly hs) (h.gone hs hi)

/-- As long as a turn holds the lock no other turn of its session asks anything. -/
theorem Run.asked_by_holder (h : Run ops s ds s') (hs : Orderly ops es s) (hi : s.table.Holds i)
    (hi' : s'.table.Holds i) : ∀ f ∈ asked ds, (ops f.caller).waits = true →
      (ops f.caller).key = (ops i).key → f.caller = i := by
  induction h generalizing es with
  | nil s => exact fun f hf => (List.not_mem_nil hf).elim
  | @cons s s₁ s₂ d ds h hrest ih =>
    intro f hf hwaits hkey
    rw [← List.singleton_append, asked_append, List.mem_append] at hf
    rcases hf with hf | hf
    · cases h with
      | ask hholds h =>
        obtain rfl := List.mem_singleton.1 hf
        exact hs.holds_unique (hholds hwaits) hi hkey
      | _ => cases hf
    · -- A turn that has let go of the lock does not hold it later, so it has held it all along.
      rcases h.holds hs hi with hi₁ | hgone
      · exact ih (h.orderly hs) hi₁ hi' f hf hwaits hkey
      · exact (not_holds_of_gone (hrest.gone (h.orderly hs) hgone) hi').elim

/-- Between two questions of a turn no other turn of its session asks any. -/
theorem Run.undisturbed
    (h : Run ops (opening store ops) (ds₁ ++ .ask e :: (ds₂ ++ .ask e' :: ds₃)) s)
    (hcaller : e'.caller = e.caller) (hwaits : (ops e.caller).waits = true) :
    ∀ f ∈ asked ds₂, (ops f.caller).waits = true → (ops f.caller).key = (ops e.caller).key →
      f.caller = e.caller := by
  obtain ⟨s₁, h₁, h⟩ := run_append_iff.1 h
  obtain ⟨s₂, hstep, h⟩ := run_cons_iff.1 h
  obtain ⟨s₃, h₂, h⟩ := run_append_iff.1 h
  obtain ⟨s₄, hstep', -⟩ := run_cons_iff.1 h
  have horderly := hstep.orderly (orderly_of_run h₁)
  cases hstep with
  | ask hholds _ =>
    cases hstep' with
    | ask hholds' _ =>
      rw [hcaller] at hholds'
      exact h₂.asked_by_holder horderly (hholds hwaits) (hholds' hwaits)

/-- Turns of one session take turns, in every run of a service: their leases are all on the lock in
the table, one of them at most holds it, and one at most is between its load and its save; between
two questions of a turn no other turn of the session asks any; a lease that is dropped leaves the
entry to the leases that are live; and a session without a live lease has no entry. -/
theorem Run.one_at_a_time (h : Run ops (opening store ops) ds s) :
    (∀ l ∈ s.table.leases,
      l.session = (ops l.turn).key ∧ s.table.locks.lookup l.session = some l.lock) ∧
    (∀ l ∈ s.table.leases, ∀ l' ∈ s.table.leases, l.session = l'.session → l.lock = l'.lock) ∧
    (∀ i j, (ops i).key = (ops j).key → s.table.Holds i → s.table.Holds j → i = j) ∧
    (∀ i j, (ops i).key = (ops j).key → Amid ops ds s i → Amid ops ds s j → i = j) ∧
    (∀ ds₁ e ds₂ e' ds₃, ds = ds₁ ++ .ask e :: (ds₂ ++ .ask e' :: ds₃) →
      e'.caller = e.caller → (ops e.caller).waits = true → ∀ f ∈ asked ds₂,
        (ops f.caller).waits = true → (ops f.caller).key = (ops e.caller).key →
          f.caller = e.caller) ∧
    (∀ i s', Step ops s (.act (.drop i)) s' → ∀ l ∈ s.table.leases, l.turn ≠ i →
      l ∈ s'.table.leases ∧ s'.table.locks.lookup l.session = some l.lock) ∧
    (∀ session, (∀ l ∈ s.table.leases, l.session ≠ session) →
      s.table.locks.lookup session = none) := by
  have horderly := orderly_of_run h
  have hsound := horderly.sound
  refine ⟨fun l hl => ⟨(horderly.own l hl).2, hsound.lookup_eq hl⟩,
    fun l hl l' hl' hsession => (hsound.lock_eq_iff hl hl').2 hsession,
    fun i j hkey hi hj => horderly.holds_unique hi hj hkey,
    fun i j hkey hi hj => horderly.holds_unique (hi.holds horderly) (hj.holds horderly) hkey,
    ?_, ?_, fun session hidle => hsound.lookup_eq_none hidle⟩
  · rintro ds₁ e ds₂ e' ds₃ rfl hcaller hwaits
    exact h.undisturbed hcaller hwaits
  · intro i s' hdrop l hl hother
    cases hdrop with
    | act hcome hdrop =>
      have hl' := (hdrop.mem_leases_iff hother).2 hl
      exact ⟨hl', (hdrop.sound hsound).lookup_eq hl'⟩

def starts (_ : Nat) : Op Unit := .turn World.greeter ⟨"user", none⟩ (.start "greeting")

/-- Of three starts one is given up while it waits for the one that is under way; the third gets
the lock when the first is over. -/
def aroundWaiter : List (Deed Unit) :=
  [.act (.checkOut 0 "user"), .act (.acquire 0), .ask ⟨0, ⟨.load "user", .ok none⟩⟩,
    .act (.checkOut 1 "user"), .act (.drop 1), .act (.checkOut 2 "user"),
    .ask ⟨0, ⟨.now, ⟨0, 0⟩⟩⟩, .ask ⟨0, ⟨.note (.turn "greeting" "awaiting_input"), ()⟩⟩,
    .ask ⟨0, ⟨.save "user" World.greeted none, .ok ()⟩⟩, .act (.release 0), .act (.drop 0),
    .act (.acquire 2), .ask ⟨2, ⟨.load "user", .ok (some World.greeted)⟩⟩]

theorem run_aroundWaiter :
    ∃ s, Run starts (opening (.memory []) starts) aroundWaiter s ∧
      s.table = ⟨[("user", 0)], [⟨2, "user", 0, .holding⟩], 1⟩ ∧
      ∀ result, s.world.calls 2 ≠ .done result := by
  refine ⟨_, .cons (.arrive rfl (by decide)) <| .cons (.act nofun (.acquire rfl rfl rfl)) <|
    .cons (.ask (fun _ => ⟨_, .head _, rfl, rfl⟩) (.mk rfl (.load _ _))) <|
    .cons (.arrive rfl (by decide)) <| .cons (.act nofun (.drop rfl (by decide))) <|
    .cons (.arrive rfl (by decide)) <|
    .cons (.ask (fun _ => ⟨_, .head _, rfl, rfl⟩) (.mk rfl (.timed _ _))) <|
    .cons (.ask (fun _ => ⟨_, .head _, rfl, rfl⟩) (.mk rfl (.noted _ _))) <|
    .cons (.ask (fun _ => ⟨_, .head _, rfl, rfl⟩) (.mk rfl (.saved rfl))) <|
    .cons (.act nofun (.release rfl rfl)) <| .cons (.act nofun (.drop rfl (by decide))) <|
    .cons (.act nofun (.acquire rfl rfl rfl)) <|
    .cons (.ask (fun _ => ⟨_, .head _, rfl, rfl⟩) (.mk rfl (.load _ _))) <| .nil _, ?_, ?_⟩
  · decide
  · exact fun result h => by cases h

theorem one_at_a_time_aroundWaiter :
    ∃ s, Run starts (opening (.memory []) starts) aroundWaiter s ∧
      s.table.locks.lookup "user" = some 0 ∧ Amid starts aroundWaiter s 2 ∧
      ∀ i, Amid starts aroundWaiter s i → i = 2 := by
  obtain ⟨s, hrun, htable, hcalls⟩ := run_aroundWaiter
  have hamid : Amid starts aroundWaiter s 2 := by
    refine ⟨rfl, ⟨_, .head _, rfl⟩, hcalls, ⟨2, "user", 0, .holding⟩, ?_, rfl, by decide⟩
    rw [htable]
    exact .head _
  obtain ⟨hlocks, -, -, hunique, -⟩ := Run.one_at_a_time hrun
  refine ⟨s, hrun, ?_, hamid, fun i hi => hunique i 2 rfl hi hamid⟩
  exact (hlocks ⟨2, "user", 0, .holding⟩ (by rw [htable]; exact .head _)).2

end Service

end Dialogue
