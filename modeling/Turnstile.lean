import Turnstile.Admission.History
import Turnstile.Console.Benchmark
import Turnstile.Console.Inspector
import Turnstile.Console.Startup
import Turnstile.Main
import Turnstile.Ordering.FaultyStore
import Turnstile.Store.Json
import Turnstile.Store.Session
import Turnstile.Proofs.Admission.Held
import Turnstile.Proofs.Admission.Isolation
import Turnstile.Proofs.Admission.Remaining
import Turnstile.Proofs.Caller.Forwarded
import Turnstile.Proofs.Limiter.Apart
import Turnstile.Proofs.Limiter.Guard
import Turnstile.Proofs.Ordering.Plans
import Turnstile.Proofs.Policy.RoundTrip
import Turnstile.Proofs.Policy.Table
import Turnstile.Proofs.Store.Integrity
import Turnstile.Proofs.Store.Successive
import Turnstile.Proofs.Admission.Contents
import Turnstile.Proofs.Limiter.Callers
import Turnstile.Proofs.Ordering.Reports
