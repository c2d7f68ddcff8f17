/-
  A channel from one publisher to any number of subscribers.
  It keeps the latest messages only: a subscriber that falls
  behind is told how many it lost.

  Key definitions include:
    * `Broadcast`
    * `Broadcast.publish`
    * `Broadcast.subscribe`
    * `Broadcast.receive`
-/

------------------------------------------------------------
-- Channels
------------------------------------------------------------

namespace StorageRouting

/-
  A channel: how many messages it keeps, how many were ever
  published, the kept ones from the oldest on, and for each
  subscriber the number of the message it reads next.
-/
structure Broadcast (α : Type) where
  capacity : Nat
  published : Nat
  kept : List α
  subscribers : List (String × Nat)

namespace Broadcast

variable {α : Type}

/- The capacity of a channel when none is asked for. -/
def defaultCapacity : Nat :=
  64

/- The next power of two from a start, in at most so many steps. -/
def doubleUntil : Nat → Nat → Nat → Nat
| 0, n, _ => n
| fuel + 1, n, least =>
    if least ≤ n then n else doubleUntil fuel (2 * n) least

/- The least power of two at or above a number. -/
def roundUp (n : Nat) : Nat :=
  doubleUntil n 1 n

/- A channel that keeps at least so many messages. -/
def new (capacity : Nat) : Broadcast α :=
  { capacity := roundUp (max capacity 1), published := 0
    kept := [], subscribers := [] }

/- The number of the oldest kept message. -/
def oldest (b : Broadcast α) : Nat :=
  b.published - b.kept.length

/- Publish a message; the oldest makes room for it. -/
def publish
    (b : Broadcast α)
    (a : α) : Broadcast α :=
  let kept := b.kept ++ [a]
  { b with
    published := b.published + 1
    kept := kept.drop (kept.length - b.capacity) }

/- Whether there is a subscriber of a name. -/
def hasSubscriber
    (b : Broadcast α)
    (id : String) : Bool :=
  (b.subscribers.lookup id).isSome

/- The channel without a subscriber. -/
def leave
    (b : Broadcast α)
    (id : String) : Broadcast α :=
  { b with
    subscribers := b.subscribers.filter (fun s => s.1 ≠ id) }

/- Let a subscriber read on from a message number. -/
def seek
    (b : Broadcast α)
    (id : String)
    (next : Nat) : Broadcast α :=
  { b.leave id with
    subscribers := (id, next) :: (b.leave id).subscribers }

/- A new subscriber gets what is published from now on. -/
def subscribe
    (b : Broadcast α)
    (id : String) : Broadcast α :=
  b.seek id b.published

/- What a subscriber receives. -/
inductive Delivery (α : Type) where
| message (a : α) : Delivery α
| lagged (count : Nat) : Delivery α
| nothing : Delivery α

/-
  The next message for a subscriber, or how many were lost;
  after a loss reading goes on with the oldest kept message.
  There is no answer to an unknown subscriber.
-/
def receive
    (b : Broadcast α)
    (id : String) : Option (Delivery α × Broadcast α) :=
  match b.subscribers.lookup id with
  | none => none
  | some next =>
      if next < b.oldest then
        some (.lagged (b.oldest - next), b.seek id b.oldest)
      else
        match b.kept[next - b.oldest]? with
        | none => some (.nothing, b)
        | some a => some (.message a, b.seek id (next + 1))

end Broadcast

end StorageRouting
