/-!
# Retrying transient failures

A retry policy says how often a statement may run and how long to wait between runs. The wait
starts at the initial backoff and doubles for each further retry until it reaches the maximum,
which then caps it. A policy with one attempt never retries.

Durations are whole nanoseconds, and a product of durations stops at the longest duration.
-/

namespace EntitySql

def maxDuration : Nat := 18446744073709551615 * 1000000000 + 999999999

def saturatingMul (d n : Nat) : Nat := min (d * n) maxDuration

/-- A backoff schedule for statements that fail transiently. -/
structure RetryPolicy where
  maxAttempts : Nat
  initialBackoff : Nat
  maxBackoff : Nat
  /-- Random spread of each delay, as a fraction between 0 and 1. -/
  jitter : Float
  deriving Inhabited

namespace RetryPolicy

def none : RetryPolicy := ⟨1, 50000000, 2000000000, 0.0⟩

def new (n : Nat) : RetryPolicy := { none with maxAttempts := max n 1, jitter := 0.25 }

def withBackoff (p : RetryPolicy) (initial maximum : Nat) : RetryPolicy :=
  { p with initialBackoff := initial, maxBackoff := max maximum initial }

def withJitter (p : RetryPolicy) (j : Float) : RetryPolicy :=
  { p with jitter := if j < 0.0 then 0.0 else if j > 1.0 then 1.0 else j }

def isEnabled (p : RetryPolicy) : Bool := p.maxAttempts > 1

/-- The backoff after `k` doublings, stopping as soon as it reaches the maximum. A doubling
that would pass the longest duration gives the longest duration. -/
def doubled (maximum : Nat) : Nat → Nat → Nat
  | d, 0 => d
  | d, k + 1 =>
    let twice := saturatingMul d 2
    if twice ≥ maximum then twice else doubled maximum twice k

/-- The wait before retry number `attempt` (0 for the first retry), without jitter; `none` once
the attempts are spent. -/
def delayFor? (p : RetryPolicy) (attempt : Nat) : Option Nat :=
  if attempt + 1 ≥ p.maxAttempts then Option.none
  else some (min (doubled p.maxBackoff p.initialBackoff attempt) p.maxBackoff)

end RetryPolicy

end EntitySql
