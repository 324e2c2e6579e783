/-
Token buckets.

A bucket holds up to a minute's worth of calls and refills evenly.  A call takes one
token; a call that finds less than one is refused, with the whole seconds after which
there will be one.

The arithmetic is left open: `Amount` names the operations a bucket needs, the
running limiter counts in floats, and statements about what a bucket lets through are
made over exact numbers.
-/
import Turnstile.Time.Instant

namespace Turnstile

/-- The numbers a bucket counts tokens in. -/
class Amount (α : Type) where
  /-- A whole count. -/
  ofInt : Int → α
  add : α → α → α
  sub : α → α → α
  mul : α → α → α
  div : α → α → α
  /-- Is the first at most the second? -/
  atMost : α → α → Bool
  /-- Are the two the same number? -/
  same : α → α → Bool
  /-- The least whole number that is not below a number, where there is one. -/
  ceiling? : α → Option Nat

instance : Amount Float where
  ofInt := Float.ofInt
  add := (· + ·)
  sub := (· - ·)
  mul := (· * ·)
  div := (· / ·)
  atMost a b := a ≤ b
  same a b := a == b
  ceiling? x := if x.isFinite then some x.ceil.toUInt64.toNat else none

/-! ### Decisions -/

/-- The answer of a limiter. -/
structure Decision where
  allowed : Bool
  /-- Whole seconds after which a refused call may come back. -/
  retryAfter : Nat
deriving DecidableEq, Repr

namespace Decision

/-- The call may go on. -/
def allow : Decision := ⟨true, 0⟩

/-- The call is refused; it may come back after a second at the least. -/
def deny (retryAfter : Nat) : Decision := ⟨false, max retryAfter 1⟩

/-- The hint for a call that no bucket can promise a token. -/
def fallbackRetry : Nat := 60

end Decision

/-! ### Buckets -/

/-- A bucket of tokens. -/
structure Bucket (α : Type) where
  tokens : α
  capacity : α
  refillPerSecond : α
  lastRefill : Instant

namespace Bucket

variable {α : Type} [Amount α]

open Amount

/-- The smaller of two numbers, the second where they cannot be compared. -/
def least (a b : α) : α := if atMost a b then a else b

/-- Tokens a second that fill a capacity in a minute. -/
def refillRate (capacity : α) : α := div capacity (ofInt 60)

/-- A new bucket: full, less the call it was made for. -/
def fresh (capacity : α) (now : Instant) : Bucket α where
  tokens := sub capacity (ofInt 1)
  capacity
  refillPerSecond := refillRate capacity
  lastRefill := now

/-- Add the tokens of the time since the last refill.  Time that has not moved forward adds
none; a time too far off to be counted in microseconds fills the bucket. -/
def refill (b : Bucket α) (now : Instant) : Bucket α :=
  match Span.micros? (now.since b.lastRefill) with
  | some us =>
    if 0 < us then
      let elapsed := div (ofInt us) (ofInt 1000000)
      { b with
        tokens := least (add b.tokens (mul elapsed b.refillPerSecond)) b.capacity
        lastRefill := now }
    else b
  | none => { b with tokens := b.capacity, lastRefill := now }

/-- Give the bucket another capacity.  Tokens past it are lost, and none are gained. -/
def rebase (b : Bucket α) (capacity : α) : Bucket α :=
  if same b.capacity capacity && same b.refillPerSecond (refillRate capacity) then b
  else { b with
    capacity
    refillPerSecond := refillRate capacity
    tokens := least b.tokens capacity }

/-- Seconds until there is a token, rounded up. -/
def retryAfter (b : Bucket α) : Nat :=
  (ceiling? (div (mul (sub (ofInt 1) b.tokens) (ofInt 60)) b.capacity)).getD
    Decision.fallbackRetry

/-- Take a token, if there is one. -/
def take (b : Bucket α) : Decision × Bucket α :=
  if atMost (ofInt 1) b.tokens then (.allow, { b with tokens := sub b.tokens (ofInt 1) })
  else (.deny b.retryAfter, b)

/-- One call at `now` under a rate: refill at the old rate, change to the new one, take. -/
def call (b : Bucket α) (rate : Int) (now : Instant) : Decision × Bucket α :=
  ((b.refill now).rebase (ofInt rate)).take

end Bucket

end Turnstile
