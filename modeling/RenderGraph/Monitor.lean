import RenderGraph.Duration
import RenderGraph.Error

/-!
# Timing of runs

While monitoring is on, each complete run is recorded: the time of every filter
in that run, and the sum of its times over all runs. Switching it off drops all
samples; switching it on again while it is on keeps them.
-/

namespace RenderGraph

/-- What has been recorded. -/
structure Samples where
  /-- The time of every filter in the last run. -/
  last : List Duration
  /-- The total time of every filter. -/
  sum : List Duration
  /-- The number of runs. -/
  runs : Nat
  deriving DecidableEq, Repr

/-- The time of one filter in a run. -/
structure Sample where
  /-- The number of the filter. -/
  filter : Nat
  /-- Its time. -/
  duration : Duration
  deriving DecidableEq, Repr

namespace Samples

/-- The samples of no run over a number of filters. -/
def none (filters : Nat) : Samples :=
  ⟨List.replicate filters .zero, List.replicate filters .zero, 0⟩

/-- The most runs that can be counted. -/
def mostRuns : Nat := UInt32.size - 1

/-- Adds the time of one filter to the last run, unless a sum or an index is out of range. -/
def add? (samples : Samples) (sample : Sample) : Option Samples := do
  let total ← (← samples.sum[sample.filter]?).add? sample.duration
  return { samples with
    last := samples.last.set sample.filter sample.duration
    sum := samples.sum.set sample.filter total }

/-- Adds a whole run, unless a sum or the number of runs is out of range. -/
def record? (samples : Samples) (run : List Sample) : Option Samples := do
  let cleared := { samples with last := samples.last.map fun _ => .zero }
  let filled ← run.foldlM add? cleared
  if filled.runs < mostRuns then some { filled with runs := filled.runs + 1 } else failure

end Samples

/-- The monitor of a pipeline. -/
structure Monitor where
  /-- The samples, while monitoring is on. -/
  samples : Option Samples
  deriving DecidableEq, Repr

namespace Monitor

/-- A monitor that is off. -/
def off : Monitor := ⟨none⟩

/-- Whether monitoring is on. -/
def isEnabled (monitor : Monitor) : Bool :=
  monitor.samples.isSome

/-- Switches monitoring on for a number of filters. -/
def enable (monitor : Monitor) (filters : Nat) : Monitor :=
  ⟨some (monitor.samples.getD (.none filters))⟩

/-- Records a run if monitoring is on. -/
def record? (monitor : Monitor) (run : List Sample) : Option Monitor :=
  match monitor.samples with
  | none => some monitor
  | some samples => (samples.record? run).map fun recorded => ⟨some recorded⟩

/-- The samples, which are there only while monitoring is on. -/
def collected (monitor : Monitor) : Except Error Samples :=
  match monitor.samples with
  | some samples => .ok samples
  | none => .error Cause.monitoringDisabled

/-- The time of a filter in the last run. -/
def last (monitor : Monitor) (filter : Nat) : Except Error Duration := do
  return (← monitor.collected).last[filter]?.getD .zero

/-- The mean time of a filter over all runs, and no time without any. -/
def mean (monitor : Monitor) (filter : Nat) : Except Error Duration := do
  let samples ← monitor.collected
  return (samples.sum[filter]?.getD .zero).share samples.runs

/-- The number of runs. -/
def runs (monitor : Monitor) : Except Error Nat := do
  return (← monitor.collected).runs

end Monitor

end RenderGraph
