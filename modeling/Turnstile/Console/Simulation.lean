/-
# Simulated traffic

A simulation repeats one request on a clock of its own.  The pauses before the requests
follow a pattern: none at all, the same one every time, or one that swings around the given
interval by up to a half over the whole run.  It breaks down when the time since its beginning
can no longer be counted.
-/
import Turnstile.Console.DurationText
import Turnstile.Limiter

namespace Turnstile

/-- How the pauses between simulated requests go. -/
inductive Pattern where
  | burst
  | steady
  | sineWave
deriving DecidableEq, Repr

namespace Pattern

/-- All patterns. -/
def all : List Pattern := [burst, steady, sineWave]

/-- The name of a pattern. -/
def name : Pattern → String
  | burst => "burst"
  | steady => "steady"
  | sineWave => "sine_wave"

/-- The pattern with a name. -/
def ofName? (s : String) : Option Pattern := all.find? fun p => p.name == s

/-- The ratio of a circle's circumference to its diameter. -/
def pi : Float := 3.14159265358979323846

/-- The factor of the pause before request number `i` of `count`, counted from zero. -/
def waveFactor (i count : Nat) : Float :=
  1.0 + 0.5 * (Float.ofNat i * pi * 2.0 / Float.ofNat count).sin

/-- The pause before request number `i` of `count`, counted from zero. -/
def pause (p : Pattern) (interval : Duration) (i count : Nat) : Duration :=
  match p with
  | burst => ⟨0⟩
  | steady => interval
  | sineWave => interval.scaled (waveFactor i count)

end Pattern

/-- A simulated request, with the time since the beginning at which it was made. -/
structure Sample where
  elapsed : Duration
  decision : Decision
deriving DecidableEq, Repr

namespace Limiter

/-- Makes a request so many times, from number `i` on, each one after its pause; no samples
if the simulation breaks down. -/
def simulate (r : Request) (principal : Principal) (pause : Nat → Duration) (i : Nat)
    (elapsed : Duration) (c : Clock) : Nat → Action Limiter (Option (List Sample))
  | 0 => pure (some [])
  | n + 1 =>
    match elapsed.add? (pause i) with
    | none => pure none
    | some elapsed => do
      let c := c.advance (pause i)
      let decision ← check r principal c.millis
      let samples ← simulate r principal pause (i + 1) elapsed c n
      return samples.map (⟨elapsed, decision⟩ :: ·)

end Limiter

end Turnstile
