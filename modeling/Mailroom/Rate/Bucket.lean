/-!
# Token buckets

A bucket holds a number of tokens at most, and fills evenly from empty to full in one window. A
request takes one token. Tokens are counted in thousandths, so that a slow flow is not lost between
two requests, and the time of the last taking only moves forward. Numbers are words of 64 bits: a
product that is too large for one loses its upper bits, apart from the flow into the bucket, which
stops at the largest word.
-/

namespace Mailroom.Rate

/-- What a word of 64 bits keeps of a number. -/
def word (n : Nat) : Nat := n % Nat.pow 2 64

/-- What a signed word of 64 bits keeps of a number. -/
def signedWord (n : Int) : Int := n.bmod (Nat.pow 2 64)

/-- The number of units in a token. -/
def scale : Nat := 1000

/-- The instant that a clock shows, which is never before 1970. -/
def instant (clock : Int) : Int := max 0 clock

/-- Division that rounds up. -/
def ceilDiv (n d : Nat) : Nat := n / d + (if n % d = 0 then 0 else 1)

/-- A bucket: the tokens it can hold, the milliseconds in which it fills, the units in it at the
time of the last taking, and that time. -/
structure Bucket where
  capacity : Nat
  window : Nat
  units : Nat
  since : Int
deriving DecidableEq, Repr

namespace Bucket

/-- A full bucket at the given instant. It does not fill in less than a millisecond. -/
def full (capacity window : Nat) (now : Int) : Bucket :=
  { capacity, window := max window 1, units := capacity * scale, since := now }

/-- The units in a full bucket. -/
def limit (b : Bucket) : Nat := b.capacity * scale

/-- The units that flow in within some milliseconds. -/
def inflow (b : Bucket) (elapsed : Int) : Nat :=
  min (elapsed.toNat * b.limit) (Nat.pow 2 64 - 1) / b.window

/-- The units in the bucket at an instant. -/
def unitsAt (b : Bucket) (now : Int) : Nat := min (b.units + b.inflow (now - b.since)) b.limit

/-- Take a token, if there is a whole one. -/
def take? (b : Bucket) (now : Int) : Option Bucket :=
  if b.unitsAt now < scale then none
  else some { b with units := b.unitsAt now - scale, since := max b.since now }

/-- The whole tokens in the bucket. -/
def available (b : Bucket) (now : Int) : Nat := b.unitsAt now / scale

/-- The seconds until there is a whole token. -/
def retryAfter (b : Bucket) (now : Int) : Nat :=
  let units := b.unitsAt now
  if scale ≤ units then 0
  else max (ceilDiv (word ((scale - units) * b.window) / max b.limit 1) 1000) 1

/-- The second at which the bucket is full again, if nothing is taken. -/
def resetAt (b : Bucket) (now : Int) : Int :=
  let millis := ceilDiv (word ((b.limit - b.unitsAt now) * b.window)) (max b.limit 1)
  (signedWord (now + signedWord millis + 999)).tdiv 1000

end Bucket

end Mailroom.Rate
