/-
# The limiter

The limiter holds a table of policies, whether proxies are trusted, and the counters.  A
check looks the policy of a request up, works out the identity it is counted under, checks
the windows at the time given and turns the verdict into a decision.  A request without a
policy, or under a policy without windows, is not limited.
-/
import Turnstile.Admission.Counters
import Turnstile.Caller.Identity
import Turnstile.Clock
import Turnstile.Event
import Turnstile.Policy.Default
import Turnstile.Policy.Table
import Turnstile.Reply.Rejection

namespace Turnstile

/-- What a limiter is built from. -/
structure LimiterConfig where
  /-- Whether the headers of proxies are trusted. -/
  trustProxies : Bool := false
  policies : List Policy := defaultPolicies
deriving DecidableEq, Repr

/-- The first fault of a configuration, if it has one. -/
def LimiterConfig.fault? (c : LimiterConfig) : Option PolicyFault :=
  Policy.firstFault? [] c.policies

/-- Admission control for requests. -/
structure Limiter where
  table : PolicyTable
  trustProxies : Bool
  counters : Counters := {}

namespace Limiter

/-- A limiter without counters, from a configuration without fault. -/
def ofConfig (c : LimiterConfig) : Except PolicyFault Limiter :=
  (PolicyTable.ofList c.policies).map fun t => { table := t, trustProxies := c.trustProxies }

/-- What is logged when a limiter has been built. -/
def readyEvent (l : Limiter) : Event where
  level := .info
  source := .limiter
  message := "Rate limiter initialized"
  fields := [("policies", .number l.table.size), ("trust_proxy_ip_headers", .flag l.trustProxies)]

/-- The policy that covers a method and a route. -/
def policyFor? (l : Limiter) (method route : String) : Option Policy := l.table.find? method route

/-- The identity that a request is counted under for a policy. -/
def identityFor (l : Limiter) (p : Policy) (r : Request) (principal : Principal) : Identity :=
  Identity.of l.trustProxies p.keying principal r

/-- What is logged for a request without a policy. -/
def unboundEvent (r : Request) : Event where
  level := .debug
  source := .limiter
  message := "No rate limit policy for route"
  fields := [("method", .text r.method), ("route", .text r.route)]

/-- What is logged for a verdict, given its tightest window. -/
def verdictEvent (b : Bucket) (allowed : Bool) (w : WindowState) : Event where
  level := if allowed then .debug else .warn
  source := .limiter
  message := if allowed then "Rate limit check" else "Rate limit exceeded"
  fields := [("policy", .text b.policy), ("identity", .text b.identity),
    ("allowed", .flag allowed), ("limit", .number w.limit), ("window_seconds", .number w.seconds)]

/-- The decision that a verdict leads to. -/
def decisionOf (v : Verdict) (now : Nat) : Decision :=
  match v.mostRestrictive with
  | none => .unlimited
  | some w =>
    if v.allowed then .allowed (.ofState w) else .rejected (.of (.ofState w) now)

/-- What is logged for a verdict. -/
def eventsOf (b : Bucket) (v : Verdict) : List Event :=
  (v.mostRestrictive.map (verdictEvent b v.allowed)).toList

/-- The bucket of a request under a policy. -/
def bucketFor (l : Limiter) (p : Policy) (r : Request) (principal : Principal) : Bucket :=
  ⟨p.key, (l.identityFor p r principal).key⟩

/-- Decides at a time whether a request may proceed, and records it if so. -/
def check (r : Request) (principal : Principal) (now : Nat) : Action Limiter Decision := fun l =>
  match l.policyFor? r.method r.route with
  | none => ⟨.unlimited, l, [unboundEvent r]⟩
  | some p =>
    let b := l.bucketFor p r principal
    let (v, cs) := l.counters.check b p.windows now
    ⟨decisionOf v now, { l with counters := cs }, eventsOf b v⟩

/-- The number of requests of an identity that count in a window of a policy now. -/
def recorded (p : Policy) (identity : String) (index now : Nat) : Action Limiter Nat :=
  Action.update fun l =>
    match p.windows[index]? with
    | none => (0, l)
    | some w =>
      let (n, cs) := l.counters.recorded ⟨⟨p.key, identity⟩, index⟩ w now
      (n, { l with counters := cs })

/-- Forgets all counters. -/
def reset : Action Limiter Unit := fun l =>
  ⟨(), { l with counters := Counters.reset },
    [{ level := .info, source := .limiter, message := "Rate limit counters reset" }]⟩

/-- Checks a request several times, with a pause after each check, on a clock. -/
def burst (r : Request) (principal : Principal) (pause : Duration) :
    Nat → Clock → Action Limiter (List Decision × Clock)
  | 0, c => pure ([], c)
  | n + 1, c => do
    let d ← check r principal c.millis
    let (ds, c') ← burst r principal pause n (c.advance pause)
    return (d :: ds, c')

end Limiter

/-- Runs a handler only if the limiter admits the request.  The caller is authenticated and
the clock read once, before the handler runs.  An admitted response gets the headers of the
quota after recording; a response that no policy binds is left as it is.  The clock is read
also for a request that no policy covers, although nothing depends on the time then. -/
def guarded {m : Type → Type} [Monad m] {ρ : Type} [HeaderSink ρ] (l : Limiter)
    (authenticate : Request → m Principal) (now : m Nat) (r : Request) (handler : m ρ) :
    m (Outcome Limiter (Except Rejection ρ)) := do
  let principal ← authenticate r
  let t ← now
  let o := (Limiter.check r principal t).run l
  match o.result with
  | .rejected rejection => return ⟨.error rejection, o.state, o.events⟩
  | .unlimited => return ⟨.ok (← handler), o.state, o.events⟩
  | .allowed headers => return ⟨.ok (headers.apply (← handler)), o.state, o.events⟩

end Turnstile
