import Mailroom.Journal
import Mailroom.Rate.Bucket
import Mailroom.Settings.Basic

/-!
# Limiting the rate of requests

One bucket for each client. A bucket that nothing was taken from for its lifetime is dropped; the
client begins with a full one again.
-/

namespace Mailroom.Rate

/-- The answer to a request. -/
inductive Verdict where
  | allowed (remaining limit : Nat) (resetAt : Int)
  | denied (retryAfter limit : Nat) (resetAt : Int)
deriving DecidableEq, Repr

/-- The buckets of the clients. -/
structure Limiter where
  settings : RateSettings
  buckets : List (String × Bucket) := []

namespace Limiter

/-- The milliseconds in which a bucket fills. -/
def window (l : Limiter) : Nat := min (l.settings.window * 1000) (Nat.pow 2 64 - 1)

/-- The bucket of a client, which is a full one for a new client. -/
def bucketOf (client : String) (now : Int) (l : Limiter) : Bucket :=
  (l.buckets.lookup client).getD (.full l.settings.requests l.window now)

/-- Put the bucket of a client in its place. -/
def put (client : String) (b : Bucket) (l : Limiter) : Limiter :=
  { l with buckets := (client, b) :: l.buckets.filter fun e => e.1 != client }

/-- Take a token from the bucket of a client. -/
def checkAt (client : String) (now : Int) (l : Limiter) : Limiter × Verdict :=
  let limit := l.settings.requests
  if !l.settings.enabled then (l, .allowed limit limit 0)
  else
    let before := l.bucketOf client now
    match before.take? now with
    | some b => (l.put client b, .allowed (b.available now) limit (b.resetAt now))
    | none =>
      (l.put client before, .denied (before.retryAfter now) limit (before.resetAt now))

/-- Take a token from the bucket of a client at the present time. -/
def check (client : String) (l : Limiter) : Journaled (Limiter × Verdict) := do
  return l.checkAt client (instant (← Journal.clock))

/-- The milliseconds after which a bucket is dropped. -/
def lifetime (l : Limiter) : Int := signedWord (word (l.settings.recordLifetime * 1000))

/-- The limiter without the buckets that have outlived their lifetime. -/
def swept (now : Int) (l : Limiter) : Limiter :=
  { l with buckets := l.buckets.filter fun e => now - e.2.since < l.lifetime }

/-- Drop the buckets that have outlived their lifetime, and count them. -/
def sweep (l : Limiter) : Journaled (Limiter × Nat) := do
  let after := l.swept (instant (← Journal.clock))
  let removed := l.buckets.length - after.buckets.length
  if 0 < removed then
    Journal.log {
      level := .debug
      target := "ara_email_service::ratelimit::limiter"
      message := "Cleaned up stale rate limit buckets"
      fields := [("removed", .int removed), ("buckets", .int after.buckets.length)] }
  return (after, removed)

end Limiter

end Mailroom.Rate
