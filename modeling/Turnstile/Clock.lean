/-
# Clocks

A clock shows a time in unix milliseconds, a 64-bit word.  A manual clock moves only when
it is told to: advancing adds a duration and wraps around at the end of the range, setting
replaces the time.  Several faces can show one and the same time, so that whoever holds one
of them sees what is done through another.
-/

namespace Turnstile

/-- A length of time in nanoseconds. -/
structure Duration where
  nanos : Nat
deriving DecidableEq, Repr

namespace Duration

/-- A duration of whole milliseconds. -/
def ofMillis (ms : Nat) : Duration := ⟨ms * 1000000⟩

/-- A duration of whole seconds and nanoseconds. -/
def ofSeconds (seconds nanos : Nat) : Duration := ⟨seconds * 1000000000 + nanos⟩

/-- The whole milliseconds of a duration. -/
def millis (d : Duration) : Nat := d.nanos / 1000000

/-- The sum of two durations. -/
def add (d e : Duration) : Duration := ⟨d.nanos + e.nanos⟩

/-- The seconds that a duration has fewer of. -/
def secondsBound : Nat := UInt64.size

/-- The sum of two durations, if its seconds can be counted. -/
def add? (d e : Duration) : Option Duration :=
  if (d.add e).nanos < secondsBound * 1000000000 then some (d.add e) else none

end Duration

/-- A clock that moves only when it is told to. -/
structure Clock where
  /-- The time shown. -/
  now : UInt64
deriving DecidableEq, Repr

namespace Clock

/-- Moves a clock on by the whole milliseconds of a duration, around the range if need be. -/
def advance (c : Clock) (d : Duration) : Clock := ⟨c.now + UInt64.ofNat d.millis⟩

/-- Sets a clock to a time. -/
def set (_ : Clock) (millis : UInt64) : Clock := ⟨millis⟩

/-- The time shown, as a number. -/
def millis (c : Clock) : Nat := c.now.toNat

end Clock

/-- Clocks under numbered faces, several of which may show the same clock. -/
structure ClockFaces where
  /-- The clocks. -/
  clocks : List Clock
  /-- For every face the place of the clock that it shows. -/
  faces : List Nat
deriving DecidableEq, Repr

namespace ClockFaces

/-- One clock under one face. -/
def single (start : UInt64) : ClockFaces := ⟨[⟨start⟩], [0]⟩

/-- Changes the clock that a face shows. -/
def modify (f : Clock → Clock) (face : Nat) (cs : ClockFaces) : ClockFaces :=
  match cs.faces[face]? with
  | none => cs
  | some i => { cs with clocks := cs.clocks.modify i f }

/-- Adds a face that shows the same clock as the given one. -/
def share (face : Nat) (cs : ClockFaces) : ClockFaces :=
  match cs.faces[face]? with
  | none => cs
  | some i => { cs with faces := cs.faces ++ [i] }

/-- Adds a clock under a face of its own. -/
def start (millis : UInt64) (cs : ClockFaces) : ClockFaces :=
  ⟨cs.clocks ++ [⟨millis⟩], cs.faces ++ [cs.clocks.length]⟩

/-- What every face shows. -/
def times (cs : ClockFaces) : List Nat :=
  cs.faces.filterMap fun i => cs.clocks[i]?.map Clock.millis

end ClockFaces

end Turnstile
