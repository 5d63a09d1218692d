/-!
# Cancellation tokens

A token carries a flag and wakes the tasks that wait for it. The steps of different tasks may
interleave, and each step is atomic. A waiter first subscribes to the next notification, then reads
the flag, and returns or suspends until it is woken, after which it begins again. A canceller first
sets the flag and then notifies, which wakes every waiter that has subscribed before, and no other.

Since a waiter subscribes before it reads the flag, and a canceller sets the flag before it
notifies, a waiter that misses the flag cannot miss the notification.
-/

namespace RunOperator

/-- Where a task that waits for a token stands. -/
inductive Waiter where
  | ready
  /-- It has subscribed and not read the flag yet; `woken` when a notification came. -/
  | subscribed (woken : Bool)
  /-- It has read that the flag is not set. -/
  | suspended (woken : Bool)
  | returned
  deriving DecidableEq, Inhabited

namespace Waiter

/-- The waiter after its next step; `none` when it cannot make one. -/
def step? (flag : Bool) : Waiter → Option Waiter
  | ready => some (subscribed false)
  | subscribed woken => some (if flag then returned else suspended woken)
  | suspended true => some ready
  | suspended false => none
  | returned => none

/-- The waiter after a notification. -/
def notified : Waiter → Waiter
  | subscribed _ => subscribed true
  | suspended _ => suspended true
  | w => w

/-- The waiter after a number of steps, as far as it can make them. -/
def run (flag : Bool) : Nat → Waiter → Waiter
  | 0, w => w
  | n + 1, w =>
    match w.step? flag with
    | some w => run flag n w
    | none => w

/-- The most steps a waiter makes before it returns or suspends: it wakes, subscribes and reads. -/
def stepsPerCheck : Nat := 3

end Waiter

/-- Where a task that cancels a token stands. -/
inductive Canceller where
  | ready
  /-- It has set the flag and not notified yet. -/
  | flagged
  | completed
  deriving DecidableEq, Inhabited

/-- A token with the tasks that wait for it and the tasks that cancel it. -/
structure Token where
  flag : Bool
  waiters : List Waiter
  cancellers : List Canceller
  deriving DecidableEq, Inhabited

namespace Token

/-- A token that was not cancelled. -/
def fresh : Token := ⟨false, [], []⟩

/-- The token was cancelled. -/
def isCancelled (t : Token) : Bool := t.flag

/-- A task begins to wait; the answer is its number. -/
def addWaiter (t : Token) : Nat × Token :=
  (t.waiters.length, { t with waiters := t.waiters ++ [.ready] })

/-- A task is about to cancel the token; the answer is its number. -/
def addCanceller (t : Token) : Nat × Token :=
  (t.cancellers.length, { t with cancellers := t.cancellers ++ [.ready] })

/-- A step of a waiter; `none` when it cannot make one. -/
def stepWaiter? (t : Token) (number : Nat) : Option Token := do
  let w ← t.waiters[number]?
  let w ← w.step? t.flag
  return { t with waiters := t.waiters.set number w }

/-- A step of a canceller; `none` when it has completed. -/
def stepCanceller? (t : Token) (number : Nat) : Option Token :=
  match t.cancellers[number]? with
  | some .ready => some { t with flag := true, cancellers := t.cancellers.set number .flagged }
  | some .flagged => some { t with
      waiters := t.waiters.map .notified
      cancellers := t.cancellers.set number .completed }
  | _ => none

/-- All waiters run until they return or suspend. -/
def settle (t : Token) : Token :=
  { t with waiters := t.waiters.map (Waiter.run t.flag Waiter.stepsPerCheck) }

/-- Cancels the token at once. -/
def cancel (t : Token) : Token :=
  let (number, t) := t.addCanceller
  Nat.repeat (fun t => (t.stepCanceller? number).getD t) 2 t

/-- The waiter has returned. -/
def hasReturned (t : Token) (number : Nat) : Bool := t.waiters[number]? == some .returned

/-- The token as it is shown. -/
def display (t : Token) : String :=
  "CancellationToken \x7b cancelled: " ++ (if t.isCancelled then "true" else "false") ++ " \x7d"

end Token

end RunOperator
