/-!
# Durations

A duration is a whole number of nanoseconds. The longest one that can be
represented has 2^64 - 1 seconds and one nanosecond less than another second; a
sum beyond it does not exist.
-/

namespace RenderGraph

/-- A span of time. -/
structure Duration where
  /-- Its length in nanoseconds. -/
  nanoseconds : Nat
  deriving DecidableEq, Repr

namespace Duration

/-- No time at all. -/
def zero : Duration := ⟨0⟩

/-- The nanoseconds in a second. -/
def perSecond : Nat := 1000000000

/-- The longest representable duration. -/
def longest : Duration := ⟨UInt64.size * perSecond - 1⟩

/-- A duration of seconds and further nanoseconds. -/
def ofParts (seconds nanoseconds : Nat) : Duration :=
  ⟨seconds * perSecond + nanoseconds⟩

/-- The whole seconds of a duration. -/
def seconds (duration : Duration) : Nat :=
  duration.nanoseconds / perSecond

/-- What a duration has beyond its whole seconds. -/
def subsecond (duration : Duration) : Nat :=
  duration.nanoseconds % perSecond

/-- The sum of two durations, if it can be represented. -/
def add? (a b : Duration) : Option Duration :=
  if a.nanoseconds + b.nanoseconds ≤ longest.nanoseconds then
    some ⟨a.nanoseconds + b.nanoseconds⟩
  else none

/-- The sum of a list of durations, if it can be represented. -/
def sum? (durations : List Duration) : Option Duration :=
  durations.foldlM add? zero

/-- The time from one reading of a clock to another. -/
def since (later earlier : Duration) : Duration :=
  ⟨later.nanoseconds - earlier.nanoseconds⟩

/-- A share of a duration, rounded down to whole nanoseconds. -/
def share (duration : Duration) (n : Nat) : Duration :=
  ⟨duration.nanoseconds / n⟩

end Duration

/-- The clock of the host of a device. How it goes on is no matter of the device. -/
structure HostClock where
  /-- What it shows after a number of timer stops. -/
  shows : Nat → Duration

namespace HostClock

/-- A clock on which each lap takes a microsecond. -/
def steady : HostClock := ⟨fun stops => ⟨1000 * stops⟩⟩

/-- The time from one stop of the timer to the next. -/
def lap (clock : HostClock) (stops : Nat) : Duration :=
  (clock.shows (stops + 1)).since (clock.shows stops)

end HostClock

end RenderGraph
