import Dialogue.Conversation.Basic
import Dialogue.Session.Lease

namespace Dialogue

/-- What surrounds the turns: the answers to queries, and for a call its result and how long it
takes. -/
structure Venue (H σ : Type) where
  respond : σ → (q : Query H) → q.Answer × σ
  beginCall : σ → Call H → (CallResult × Nat) × σ

/-- A turn with its course; some do not wait for others of their session. -/
structure Runner (H α : Type) where
  session : String
  course : Exchange H α
  waits : Bool
  outcome : Option α := none

inductive Move (H α : Type) where
  | arrive
  | acquire
  | resume (c : Exchange H α)
  | beginCall (c : Call H) (next : CallResult → Exchange H α)

/-- Turns under way: what surrounds them, who holds which lock, and the agenda of times, turns and
moves. -/
structure Floor (H σ α : Type) where
  state : σ
  locks : LockTable := {}
  runners : List (Runner H α)
  agenda : List (Nat × Nat × Move H α) := []

namespace Floor

variable {H σ α : Type}

/-- Puts a move on the agenda behind all that happens at the same time. -/
def plan (f : Floor H σ α) (time turn : Nat) (m : Move H α) : Floor H σ α :=
  { f with
    agenda := f.agenda.takeWhile (·.1 ≤ time) ++ (time, turn, m) ::
      f.agenda.dropWhile (·.1 ≤ time) }

def follow (v : Venue H σ) : σ → Exchange H α → σ × (α ⊕ (Call H × (CallResult → Exchange H α)))
  | s, .done a => (s, .inl a)
  | s, .ask (.call c) next => (s, .inr (c, next))
  | s, .ask (.load key) next =>
    let (a, s) := v.respond s (.load key)
    follow v s (next a)
  | s, .ask (.save key c expected) next =>
    let (a, s) := v.respond s (.save key c expected)
    follow v s (next a)
  | s, .ask (.clear key) next =>
    let (a, s) := v.respond s (.clear key)
    follow v s (next a)
  | s, .ask .now next =>
    let (a, s) := v.respond s .now
    follow v s (next a)
  | s, .ask (.note n) next =>
    let (a, s) := v.respond s (.note n)
    follow v s (next a)

/-- Ends a turn: its lease is dropped, and the turn that waited longest gets the lock. -/
def finish (f : Floor H σ α) (time turn : Nat) (outcome : α) : Floor H σ α :=
  let f := { f with runners := f.runners.modify turn fun r => { r with outcome := some outcome } }
  match f.locks.lease? turn with
  | none => f
  | some lease =>
    let f := { f with locks := (f.locks.release turn).drop turn }
    match f.locks.nextFor? lease.lock with
    | some next => f.plan time next.turn .acquire
    | none => f

def proceed (v : Venue H σ) (f : Floor H σ α) (time turn : Nat) (c : Exchange H α) :
    Floor H σ α :=
  match follow v f.state c with
  | (state, .inl outcome) => finish { f with state } time turn outcome
  | (state, .inr (call, next)) => plan { f with state } time turn (.beginCall call next)

/-- Lets a turn in that gets the lock of its session; otherwise it waits. -/
def enter (v : Venue H σ) (f : Floor H σ α) (time turn : Nat) (c : Exchange H α) :
    Floor H σ α :=
  match f.locks.acquire? turn with
  | some locks => proceed v { f with locks } time turn c
  | none => f

def act (v : Venue H σ) (f : Floor H σ α) (time turn : Nat) (r : Runner H α) :
    Move H α → Floor H σ α
  | .arrive =>
    if r.waits then enter v { f with locks := f.locks.checkOut turn r.session } time turn r.course
    else proceed v f time turn r.course
  | .acquire => enter v f time turn r.course
  | .resume c => proceed v f time turn c
  | .beginCall c next =>
    let ((result, elapsed), state) := v.beginCall f.state c
    plan { f with state } (time + elapsed) turn (.resume (next result))

def step? (v : Venue H σ) (f : Floor H σ α) : Option (Floor H σ α) :=
  match f.agenda with
  | [] => none
  | (time, turn, m) :: rest =>
    let f := { f with agenda := rest }
    match f.runners[turn]? with
    | some r => some (act v f time turn r m)
    | none => some f

def start (state : σ) (arrivals : List (Nat × Runner H α)) : Floor H σ α :=
  arrivals.zipIdx.foldl (fun f a => f.plan a.1.1 a.2 .arrive)
    { state, runners := arrivals.map (·.2) }

end Floor

end Dialogue
