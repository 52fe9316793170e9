/-
# Owner locks

Whatever changes an owner's rows first claims the owner's lock.  Claims on a lock queue up
in the order of arrival, and the earliest one holds the lock; a claim ends when its holder
is done or when a waiter gives up.

The table says which lock is an owner's.  It is pruned whenever a lock is looked up: locks
that nobody claims are dropped, and an owner without a lock gets a new one.  A lock is known
by its number, so that a lock that was dropped too early could be told from its successor.
-/
import Turnstile.Register

namespace Turnstile

/-- A claim on a lock. -/
structure Claim where
  /-- Who claims. -/
  ticket : Nat
  /-- The owner whose lock is claimed. -/
  owner : String
  /-- The lock that is claimed. -/
  lock : Nat
deriving DecidableEq, Repr

/-- The locks of all owners with the claims on them. -/
structure OwnerLocks where
  /-- The lock of every owner that has one. -/
  table : Register String Nat := {}
  /-- The claims in the order of arrival. -/
  claims : List Claim := []
  /-- The number of the next lock. -/
  nextLock : Nat := 0
deriving DecidableEq, Repr

namespace OwnerLocks

/-- Whether somebody claims a lock. -/
def isClaimed (l : OwnerLocks) (lock : Nat) : Bool := l.claims.any fun c => c.lock == lock

/-- The table without the locks that nobody claims. -/
def prune (l : OwnerLocks) : OwnerLocks :=
  { l with table := ⟨l.table.entries.filter fun e => l.isClaimed e.2⟩ }

/-- Finds the lock of an owner in a pruned table, or makes one. -/
def lookUp (l : OwnerLocks) (owner : String) : Nat × OwnerLocks :=
  let l := l.prune
  match l.table.get? owner with
  | some lock => (lock, l)
  | none =>
    (l.nextLock, { l with table := l.table.insert owner l.nextLock, nextLock := l.nextLock + 1 })

/-- Claims the lock of an owner. -/
def claim (l : OwnerLocks) (ticket : Nat) (owner : String) : OwnerLocks :=
  let (lock, l) := l.lookUp owner
  { l with claims := l.claims ++ [⟨ticket, owner, lock⟩] }

/-- Ends a claim. -/
def release (l : OwnerLocks) (ticket : Nat) : OwnerLocks :=
  { l with claims := l.claims.filter fun c => c.ticket != ticket }

/-- The claim of a ticket. -/
def claimOf? (l : OwnerLocks) (ticket : Nat) : Option Claim :=
  l.claims.find? fun c => c.ticket == ticket

/-- The ticket that holds a lock: that of the earliest claim. -/
def holder? (l : OwnerLocks) (lock : Nat) : Option Nat :=
  (l.claims.find? fun c => c.lock == lock).map Claim.ticket

/-- Whether a ticket holds the lock that it claims. -/
def holds (l : OwnerLocks) (ticket : Nat) : Bool :=
  match l.claimOf? ticket with
  | none => false
  | some c => l.holder? c.lock == some ticket

/-- The number of owners that have a lock. -/
def size (l : OwnerLocks) : Nat := l.table.size

end OwnerLocks

end Turnstile
