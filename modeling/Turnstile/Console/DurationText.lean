/-
# Durations on the console

Durations are written in the greatest unit that gives them a whole part, without idle zeros.
They are scaled by factors that need not be whole, with an error of at most half a
nanosecond beyond that of the floating-point product.
-/
import Turnstile.Clock
import Turnstile.Decimal.Layout

namespace Turnstile.Duration

/-- The text of a duration: in seconds, milliseconds, microseconds or nanoseconds. -/
def text (d : Duration) : String :=
  let written := fun places (unit : String) =>
    String.ofList (Decimal.trimmedFraction places d.nanos) ++ unit
  if 1000000000 ≤ d.nanos then written 9 "s"
  else if 1000000 ≤ d.nanos then written 6 "ms"
  else if 1000 ≤ d.nanos then written 3 "µs"
  else written 0 "ns"

/-- A duration in seconds: the whole seconds and the fraction, each rounded. -/
def toSeconds (d : Duration) : Float :=
  Float.ofNat (d.nanos / 1000000000) + Float.ofNat (d.nanos % 1000000000) / 1e9

/-- A duration scaled by a factor that is not negative, rounded to nanoseconds. -/
def scaled (d : Duration) (factor : Float) : Duration :=
  ⟨(Decimal.Binary.ofFloat (factor * d.toSeconds)).times 1000000000⟩

end Turnstile.Duration
