/-!
# Buckets

A client may make so many requests in each interval. Its bucket is filled again at the end of an interval,
whole and never above the limit, and the intervals of a client begin with its first request. Times are
milliseconds in 64 bits; sums stop at the ends of that range.
-/

set_option autoImplicit false

namespace Phrasebook.RateLimit

/-- A time in milliseconds. -/
abbrev Millis := Int

/-- The latest time there is. -/
def lastMillis : Millis := Nat.pow 2 63 - 1

/-- The earliest time there is. -/
def firstMillis : Millis := -(Nat.pow 2 63)

/-- The nearest time within the range. -/
def saturate (t : Int) : Millis := max firstMillis (min lastMillis t)

/-- So many requests in so many seconds. -/
structure Rule where
  /-- The number of requests. -/
  limit : Nat
  /-- The length of an interval in seconds. -/
  intervalSecs : Int
deriving DecidableEq, Inhabited

/-- The length of an interval. -/
def Rule.interval (r : Rule) : Millis := saturate (r.intervalSecs * 1000)

/-- What is left for a client in its interval. -/
structure Bucket where
  /-- How many requests it may still make. -/
  available : Nat
  /-- When it is filled again. -/
  refillAt : Millis
  /-- When it was last asked. -/
  usedAt : Millis
deriving DecidableEq, Inhabited

/-- A full bucket whose first interval begins now. -/
def Bucket.fresh (r : Rule) (now : Millis) : Bucket := ⟨r.limit, saturate (now + r.interval), now⟩

/-- The bucket after every refill that is due. However long ago, it is filled once, and the next refill is
the first end of an interval after `now`. -/
def Bucket.refill (r : Rule) (now : Millis) (b : Bucket) : Bucket :=
  if now ≥ b.refillAt then
    -- those that have passed since the refill was due, and the one that is running
    let intervals := (now - b.refillAt).tdiv r.interval + 1
    { b with available := r.limit, refillAt := saturate (b.refillAt + saturate (intervals * r.interval)) }
  else b

/-- Takes one request from a bucket: whether it is allowed, and the bucket afterwards. -/
def Bucket.take (r : Rule) (now : Millis) (b : Bucket) : Bool × Bucket :=
  let b := { b.refill r now with usedAt := now }
  if b.available > 0 then (true, { b with available := b.available - 1 }) else (false, b)

end Phrasebook.RateLimit
