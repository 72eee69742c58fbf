import Phrasebook.RateLimit.Bucket
/-!
# The rate limiter

One rule for all clients, and a bucket for each client seen so far. A client without a bucket gets a full
one. Buckets of clients that stay away are collected: a pass visits a bounded number of buckets and removes
those that were not used for a while.
-/

set_option autoImplicit false

namespace Phrasebook.RateLimit

/-- Why there is no limiter for a rule. -/
inductive RuleError where
  | notPositive
  | intervalTooLong
deriving DecidableEq

/-- The longest interval in seconds. -/
def maxIntervalSecs : Int := 86400

/-- The wording of a rule error. -/
def RuleError.message : RuleError → String
  | .notPositive => "limit and interval must be greater than 0"
  | .intervalTooLong => "interval must not exceed " ++ toString maxIntervalSecs ++ " seconds"

/-- A rule with the buckets of the clients, each client once. -/
structure Limiter where
  /-- The rule. -/
  rule : Rule
  /-- The buckets, by client. -/
  buckets : List (String × Bucket) := []
deriving Inhabited

namespace Limiter

/-- A limiter without clients, for a positive limit and a positive interval of at most a day. -/
def ofRule? (limit : Nat) (intervalSecs : Int) : Except RuleError Limiter :=
  if limit = 0 ∨ intervalSecs ≤ 0 then .error .notPositive
  else if intervalSecs > maxIntervalSecs then .error .intervalTooLong
  else .ok { rule := ⟨limit, intervalSecs⟩ }

/-- The clients with a bucket. -/
def clients (l : Limiter) : List String := l.buckets.map Prod.fst

/-- The number of buckets. -/
def size (l : Limiter) : Nat := l.buckets.length

/-- The bucket of a client. -/
def bucket? (l : Limiter) (client : String) : Option Bucket := l.buckets.lookup client

/-- Puts a bucket in the place of the client's old one, or at the end. -/
def put (client : String) (b : Bucket) : List (String × Bucket) → List (String × Bucket)
  | [] => [(client, b)]
  | (c, old) :: rest => if c == client then (c, b) :: rest else (c, old) :: put client b rest

/-- Asks for a request of a client: whether it is allowed, and the limiter afterwards. -/
def allow (l : Limiter) (client : String) (now : Millis) : Bool × Limiter :=
  let b := (l.bucket? client).getD (Bucket.fresh l.rule now)
  let (allowed, b) := b.take l.rule now
  (allowed, { l with buckets := put client b l.buckets })

/-- Asks for one request of each of some clients: how many are allowed. -/
def allowEach (l : Limiter) (clients : List String) (now : Millis) : Nat × Limiter :=
  clients.foldl
    (fun (n, l) client =>
      let (allowed, l) := l.allow client now
      (if allowed then n + 1 else n, l))
    (0, l)

/-- How many buckets a collection pass may visit before it stops. -/
def visitLimit : Nat := 200

/-- The buckets that a pass visits, when it meets them in this order: it stops when more than
`visitLimit` have been visited. -/
def visited (order : List String) : List String := order.take (visitLimit + 1)

/-- Whether a bucket was not used for `expire` milliseconds. -/
def Bucket.isIdle (b : Bucket) (now expire : Millis) : Bool := b.usedAt + expire ≤ now

/-- One collection pass over buckets met in this order: how many were removed, and the limiter
afterwards. -/
def collect (l : Limiter) (order : List String) (now expire : Millis) : Nat × Limiter :=
  let idle := (visited order).filter fun client =>
    match l.bucket? client with
    | some b => Bucket.isIdle b now expire
    | none => false
  (idle.length, { l with buckets := l.buckets.filter fun e => !idle.contains e.1 })

/-- For how long a bucket stays unused before it is collected. -/
def idleSpan (l : Limiter) : Millis := saturate (l.rule.interval * 4)

/-- How often the collector looks, in seconds. -/
def collectEverySecs : Nat := 1800

/-- The rounds of the collector: it skips those whose coin is true. -/
def collectRounds (l : Limiter) (coins : List Bool) (now : Millis) : Limiter :=
  coins.foldl (fun l skip => if skip then l else (l.collect l.clients now l.idleSpan).2) l

end Limiter

end Phrasebook.RateLimit
