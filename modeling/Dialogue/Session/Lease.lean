namespace Dialogue

inductive LeaseStage where
  | waiting | holding | released
deriving DecidableEq

/-- A lock checked out by a turn for its session. -/
structure Lease where
  turn : Nat
  session : String
  lock : Nat
  stage : LeaseStage
deriving DecidableEq

/-- The locks of sessions in the table, the live leases in the order of their check-out, and the
number of the next new lock. -/
structure LockTable where
  locks : List (String × Nat) := []
  leases : List Lease := []
  fresh : Nat := 0
deriving DecidableEq

namespace LockTable

/-- Checks a lease out: the lock in the table, or a new one that is put there. -/
def checkOut (t : LockTable) (turn : Nat) (session : String) : LockTable :=
  match t.locks.lookup session with
  | some lock => { t with leases := t.leases ++ [⟨turn, session, lock, .waiting⟩] }
  | none =>
    { locks := (session, t.fresh) :: t.locks
      leases := t.leases ++ [⟨turn, session, t.fresh, .waiting⟩]
      fresh := t.fresh + 1 }

def lease? (t : LockTable) (turn : Nat) : Option Lease := t.leases.find? (·.turn = turn)

def isHeld (t : LockTable) (lock : Nat) : Bool :=
  t.leases.any fun l => l.lock = lock ∧ l.stage = .holding

def nextFor? (t : LockTable) (lock : Nat) : Option Lease :=
  t.leases.find? fun l => l.lock = lock ∧ l.stage = .waiting

def setStage (t : LockTable) (turn : Nat) (stage : LeaseStage) : LockTable :=
  { t with leases := t.leases.map fun l => if l.turn = turn then { l with stage } else l }

/-- Gives a turn the lock it waits for, if nobody holds it and nobody waited longer. -/
def acquire? (t : LockTable) (turn : Nat) : Option LockTable :=
  match t.lease? turn with
  | some l =>
    if l.stage = .waiting ∧ !t.isHeld l.lock ∧ (t.nextFor? l.lock).any (·.turn = turn) then
      some (t.setStage turn .holding)
    else none
  | none => none

def release (t : LockTable) (turn : Nat) : LockTable := t.setStage turn .released

/-- How often a lock is referred to: by the table and by live leases. -/
def references (t : LockTable) (lock : Nat) : Nat :=
  (t.locks.filter (·.2 = lock)).length + (t.leases.filter (·.lock = lock)).length

/-- Drops the lease of a turn at any stage; a lock that only the table and this lease refer to
leaves the table. -/
def drop (t : LockTable) (turn : Nat) : LockTable :=
  match t.lease? turn with
  | none => t
  | some l =>
    { t with
      locks := if t.references l.lock ≤ 2 then t.locks.filter (·.1 ≠ l.session) else t.locks
      leases := t.leases.filter (·.turn ≠ turn) }

end LockTable

end Dialogue
