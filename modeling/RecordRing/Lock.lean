/-!
# A lock whose waits can be cancelled

Many callers share one value, and at most one of them holds it at a time. A caller that finds the
lock held *polls*: it waits an interval, takes the lock if it comes free, and after an interval in
vain looks at its cancel token. If the token was fired it gives up, else it polls again. So a
caller that finds the lock free gets it, whatever its token says.

The steps of all callers interleave freely; `LockState.step` is one of them. Time is not modelled:
how long an interval lasts decides only how many polls there are.

## The mutex underneath

Who is let in is not decided here but by a mutex (`RawMutex`), which is asked and may refuse. The
lock adds nothing but the polls and the tokens, and keeps a list of the callers that were let in and
are not out again. Nothing in the definitions says that this list is short; that it is follows from
what a mutex does (`LawfulRawMutex`).

## Main definitions

* `CancelToken`, `Cancellations` — flags that stop waits, and those fired so far
* `RawMutex`, `LawfulRawMutex`, `Latch` — a mutex, what callers may rely on, and the plainest one
* `LockState`, `LockAction`, `LockState.step`, `LockState.run` — the lock, and the steps of callers
* `LockError` — why a caller did not get the lock
* `Acquisition`, `acquisition?` — how a request for the lock ends, once it ends
-/

namespace RecordRing

/-! ### Cancel tokens -/

/-- A flag that stops lock waits. Copies of a token share its flag. -/
structure CancelToken where
  /-- Which flag it is. -/
  flag : Nat
deriving DecidableEq, Repr

/-- The tokens fired so far. A token once fired stays fired. -/
structure Cancellations where
  /-- The fired tokens, the last one first. -/
  fired : List CancelToken
deriving DecidableEq, Repr

namespace Cancellations

/-- No token fired. -/
def none : Cancellations := ⟨[]⟩

/-- Whether `t` was fired. -/
def isFired (c : Cancellations) (t : CancelToken) : Bool := c.fired.contains t

/-- Fire `t`. -/
def fire (c : Cancellations) (t : CancelToken) : Cancellations := ⟨t :: c.fired⟩

@[simp] theorem isFired_fire (c : Cancellations) (t u : CancelToken) :
    (c.fire t).isFired u = (decide (u = t) || c.isFired u) := by
  simp [isFired, fire]

end Cancellations

/-! ### How a request ends -/

/-- Why a caller did not get the lock. -/
inductive LockError where
  /-- The caller's token was fired while it waited. -/
  | cancelled
  /-- Another caller has the lock, and this one does not wait. -/
  | wouldBlock
deriving DecidableEq, Repr

/-- The wording of a lock error. -/
def LockError.message : LockError → String
  | .cancelled => "lock acquisition cancelled"
  | .wouldBlock => "lock is held by another caller"

/-- How a waiting request for the lock ends. -/
inductive Acquisition where
  /-- The caller gets the lock. -/
  | granted
  /-- The caller's token stops the wait. -/
  | cancelled
deriving DecidableEq, Repr

/-- What one poll comes to: a free lock is granted even under a fired token, and a held one is
waited for until the token is fired. -/
def acquisition? (held fired : Bool) : Option Acquisition :=
  if held then (if fired then some .cancelled else none) else some .granted

/-! ### The mutex underneath -/

/-- A mutex that can be asked, but not waited for without end. -/
class RawMutex (μ : Type) where
  /-- A mutex that nobody has. -/
  free : μ
  /-- Whether somebody has it. -/
  isLocked : μ → Bool
  /-- Wait an interval for it, which ends now, and say whether it was got. -/
  tryLockFor : μ → μ × Bool
  /-- Ask for it without waiting, and say whether it was got. -/
  tryLock : μ → μ × Bool
  /-- Give it back. -/
  unlock : μ → μ

/-- What callers of a mutex rely on: it is got by whoever asks while it is free, and by nobody while
it is locked. -/
class LawfulRawMutex (μ : Type) [RawMutex μ] : Prop where
  /-- At first nobody has it. -/
  isLocked_free : RawMutex.isLocked (RawMutex.free : μ) = false
  /-- An interval is in vain only if the mutex is locked at its end. -/
  tryLockFor_snd : ∀ m : μ, (RawMutex.tryLockFor m).2 = !RawMutex.isLocked m
  /-- Whether it was got or not, somebody has it then. -/
  isLocked_tryLockFor : ∀ m : μ, RawMutex.isLocked (RawMutex.tryLockFor m).1 = true
  /-- Asking is in vain only if the mutex is locked. -/
  tryLock_snd : ∀ m : μ, (RawMutex.tryLock m).2 = !RawMutex.isLocked m
  /-- Whether it was got or not, somebody has it then. -/
  isLocked_tryLock : ∀ m : μ, RawMutex.isLocked (RawMutex.tryLock m).1 = true
  /-- Given back, it is free. -/
  isLocked_unlock : ∀ m : μ, RawMutex.isLocked (RawMutex.unlock m) = false

/-- The plainest mutex: a flag that is set while somebody has it. -/
structure Latch where
  /-- Whether somebody has it. -/
  shut : Bool
deriving DecidableEq, Repr

instance : RawMutex Latch where
  free := ⟨false⟩
  isLocked := Latch.shut
  tryLockFor latch := (⟨true⟩, !latch.shut)
  tryLock latch := (⟨true⟩, !latch.shut)
  unlock _ := ⟨false⟩

instance : LawfulRawMutex Latch where
  isLocked_free := rfl
  tryLockFor_snd _ := rfl
  isLocked_tryLockFor _ := rfl
  tryLock_snd _ := rfl
  isLocked_tryLock _ := rfl
  isLocked_unlock _ := rfl

/-! ### The lock and its callers -/

/-- A caller of the lock. -/
abbrev Caller := Nat

/-- The lock, the value it guards, and where its callers stand. -/
structure LockState (α : Type) (μ : Type := Latch) where
  /-- The mutex underneath. -/
  mutex : μ
  /-- The guarded value. -/
  value : α
  /-- The callers that were let in and are not out again, the last one first. -/
  guards : List Caller
  /-- The tokens fired so far. -/
  cancellations : Cancellations
  /-- The callers whose last poll was in vain and who have yet to look at their token, with the
  token each looks at. -/
  missed : List (Caller × CancelToken)
deriving DecidableEq, Repr

/-- One step of one caller. -/
inductive LockAction (α : Type) where
  /-- Poll the lock: an interval ends. -/
  | poll (caller : Caller) (token : CancelToken)
  /-- Look at the token after a poll in vain. -/
  | check (caller : Caller)
  /-- Ask for the lock without waiting. -/
  | tryLock (caller : Caller)
  /-- Change the value, having the lock. -/
  | update (caller : Caller) (f : α → α)
  /-- Give the lock back. -/
  | release (caller : Caller)
  /-- Fail while having the lock. It is given back as the caller unwinds. -/
  | unwind (caller : Caller)
  /-- Fire a token. -/
  | cancel (token : CancelToken)

/-- What a step tells the caller. -/
inductive LockReply (α : Type) where
  /-- The caller has the lock now, and sees this value. -/
  | acquired (value : α)
  /-- The call ended without the lock. -/
  | failed (error : LockError)
  /-- The call goes on. -/
  | waiting
  /-- The value is this now. -/
  | updated (value : α)
  /-- The step was made. -/
  | done
  /-- The step is not this caller's to make. -/
  | refused
deriving DecidableEq, Repr

namespace LockState

variable {α μ : Type}

/-- The caller that has the lock. -/
def holder (s : LockState α μ) : Option Caller := s.guards.head?

/-- The callers other than `caller` that have yet to look at their token. -/
def missedBut (s : LockState α μ) (caller : Caller) : List (Caller × CancelToken) :=
  s.missed.filter (·.1 != caller)

variable [RawMutex μ]

/-- A free lock on `value`. -/
def new (value : α) : LockState α μ := ⟨RawMutex.free, value, [], .none, []⟩

/-- Give the lock back. -/
def giveBack (s : LockState α μ) (caller : Caller) : LockState α μ × LockReply α :=
  if caller ∈ s.guards then
    ({ s with mutex := RawMutex.unlock s.mutex, guards := s.guards.erase caller }, .done)
  else (s, .refused)

/-- One step. -/
def step (s : LockState α μ) : LockAction α → LockState α μ × LockReply α
  | .poll caller token =>
    match RawMutex.tryLockFor s.mutex with
    | (mutex, true) =>
      ({ s with mutex, guards := caller :: s.guards, missed := s.missedBut caller },
        .acquired s.value)
    | (mutex, false) =>
      ({ s with mutex, missed := (caller, token) :: s.missedBut caller }, .waiting)
  | .check caller =>
    match s.missed.lookup caller with
    | none => (s, .refused)
    | some token =>
      ({ s with missed := s.missedBut caller },
        if s.cancellations.isFired token then .failed .cancelled else .waiting)
  | .tryLock caller =>
    match RawMutex.tryLock s.mutex with
    | (mutex, true) => ({ s with mutex, guards := caller :: s.guards }, .acquired s.value)
    | (mutex, false) => ({ s with mutex }, .failed .wouldBlock)
  | .update caller f =>
    if caller ∈ s.guards then ({ s with value := f s.value }, .updated (f s.value))
    else (s, .refused)
  | .release caller | .unwind caller => s.giveBack caller
  | .cancel token => ({ s with cancellations := s.cancellations.fire token }, .done)

/-- Steps one after the other, with what each told its caller. -/
def run (s : LockState α μ) : List (LockAction α) → LockState α μ × List (LockReply α)
  | [] => (s, [])
  | a :: as =>
    let (s, reply) := s.step a
    let (s, replies) := run s as
    (s, reply :: replies)

/-- One round of a caller's wait: a poll and, if it was in vain, a look at the token. -/
def wait (s : LockState α μ) (caller : Caller) (token : CancelToken) :
    LockState α μ × LockReply α :=
  match s.step (.poll caller token) with
  | (s, .waiting) => s.step (.check caller)
  | acquired => acquired

end LockState

end RecordRing
