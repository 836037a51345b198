import RenderGraph.Monitor
import Mathlib.Data.List.Basic
import Mathlib.Algebra.Ring.Nat

/-!
# Recording runs

A run of known filters is recorded unless a sum of times gets too long to be
represented or there are too many runs. There are always as many times as filters.
-/

namespace RenderGraph

/-- Durations can be added to another one as long as the sum can be represented. -/
theorem Duration.foldlM_add? (durations : List Duration) (first : Duration)
    (h : first.nanoseconds + (durations.map Duration.nanoseconds).sum ≤ longest.nanoseconds) :
    durations.foldlM add? first =
      some ⟨first.nanoseconds + (durations.map Duration.nanoseconds).sum⟩ := by
  induction durations generalizing first with
  | nil => rfl
  | cons duration rest ih =>
    rw [List.map_cons, List.sum_cons] at h ⊢
    have hadd : first.add? duration = some ⟨first.nanoseconds + duration.nanoseconds⟩ :=
      if_pos (by omega)
    have hrest : first.nanoseconds + duration.nanoseconds +
        (rest.map Duration.nanoseconds).sum ≤ longest.nanoseconds := by omega
    rw [List.foldlM_cons, hadd, Option.bind_eq_bind, Option.bind_some, ih _ hrest, Nat.add_assoc]

/-- The time that a run adds to the sum of a filter, in nanoseconds. -/
def timeIn (run : List Sample) (filter : Nat) : Nat :=
  ((run.filter fun sample => sample.filter = filter).map
    fun sample => sample.duration.nanoseconds).sum

/-- A run adds the time of its first sample to one filter. -/
theorem timeIn_cons (sample : Sample) (rest : List Sample) (filter : Nat) :
    timeIn (sample :: rest) filter =
      (if sample.filter = filter then sample.duration.nanoseconds else 0) + timeIn rest filter := by
  by_cases h : sample.filter = filter <;> simp [timeIn, h]

/-- The time of a filter in a run, or none at all if the run is without it. -/
def durationIn (run : List Sample) (filter : Nat) : Duration :=
  (run.find? fun sample => sample.filter = filter).elim .zero Sample.duration

/-- The first sample decides for its filter. -/
theorem durationIn_cons (sample : Sample) (rest : List Sample) (filter : Nat) :
    durationIn (sample :: rest) filter =
      if sample.filter = filter then sample.duration else durationIn rest filter := by
  by_cases h : sample.filter = filter <;> simp [durationIn, h]

/-- A filter that is not in a run takes no time. -/
theorem durationIn_of_not_mem {run : List Sample} {filter : Nat}
    (h : filter ∉ run.map Sample.filter) : durationIn run filter = .zero := by
  have hnone : run.find? (fun sample => sample.filter = filter) = none :=
    List.find?_eq_none.mpr fun sample hm he =>
      h (List.mem_map.mpr ⟨sample, hm, of_decide_eq_true he⟩)
  rw [durationIn, hnone, Option.elim_none]

namespace Samples

/-- Recording a run overflows neither a sum of times nor the number of runs. -/
structure Accepts (samples : Samples) (run : List Sample) : Prop where
  /-- Another run can be counted. -/
  runs : samples.runs < mostRuns
  /-- The sum of every filter in the run can be represented. -/
  sums : ∀ sample ∈ run, ∀ total, samples.sum[sample.filter]? = some total →
    total.nanoseconds + timeIn run sample.filter ≤ Duration.longest.nanoseconds

/-- There is a time in the last run and a sum for each of so many filters. -/
structure Sized (samples : Samples) (filters : Nat) : Prop where
  /-- The times of the last run. -/
  last : samples.last.length = filters
  /-- The sums. -/
  sum : samples.sum.length = filters

/-- The samples of no run are there for every filter. -/
theorem none_sized (filters : Nat) : (none filters).Sized filters :=
  ⟨List.length_replicate, List.length_replicate⟩

variable {samples : Samples} {filters : Nat}

/-- Adding the time of a filter. -/
theorem add?_eq_some_iff {sample : Sample} {next : Samples} :
    samples.add? sample = some next ↔ ∃ total, samples.sum[sample.filter]? = some total ∧
      total.nanoseconds + sample.duration.nanoseconds ≤ Duration.longest.nanoseconds ∧
      next = { samples with
        last := samples.last.set sample.filter sample.duration
        sum := samples.sum.set sample.filter
          ⟨total.nanoseconds + sample.duration.nanoseconds⟩ } := by
  simp only [add?]
  cases samples.sum[sample.filter]? with
  | none => simp
  | some total =>
    by_cases hl : total.nanoseconds + sample.duration.nanoseconds ≤ Duration.longest.nanoseconds <;>
      simp [Duration.add?, hl, eq_comm]

/-- Adding the time of a filter adds no filters and counts no runs. -/
theorem Sized.add {sample : Sample} {next : Samples} (sized : samples.Sized filters)
    (h : samples.add? sample = some next) : next.Sized filters ∧ next.runs = samples.runs := by
  obtain ⟨total, -, -, rfl⟩ := add?_eq_some_iff.mp h
  exact ⟨⟨List.length_set.trans sized.last, List.length_set.trans sized.sum⟩, rfl⟩

/-- Nor does adding the times of several filters. -/
theorem Sized.addAll {run : List Sample} {filled : Samples} (sized : samples.Sized filters)
    (h : run.foldlM add? samples = some filled) :
    filled.Sized filters ∧ filled.runs = samples.runs := by
  induction run generalizing samples with
  | nil =>
    obtain rfl : samples = filled := by simpa using h
    exact ⟨sized, rfl⟩
  | cons sample rest ih =>
    rw [List.foldlM_cons] at h
    obtain ⟨next, hn, hf⟩ := Option.bind_eq_some_iff.mp h
    obtain ⟨hnext, hruns⟩ := sized.add hn
    obtain ⟨hfilled, hsame⟩ := ih hnext hf
    exact ⟨hfilled, hsame.trans hruns⟩

/-- The times of a run can be added if no sum overflows. -/
theorem exists_foldlM_add? {run : List Sample} (sized : samples.Sized filters)
    (hr : ∀ sample ∈ run, sample.filter < filters)
    (hs : ∀ sample ∈ run, ∀ total, samples.sum[sample.filter]? = some total →
      total.nanoseconds + timeIn run sample.filter ≤ Duration.longest.nanoseconds) :
    ∃ filled, run.foldlM add? samples = some filled := by
  induction run generalizing samples with
  | nil => exact ⟨samples, rfl⟩
  | cons sample rest ih =>
    have hlt : sample.filter < samples.sum.length := by
      have h := hr sample List.mem_cons_self
      have hl := sized.sum
      omega
    have ht := List.getElem?_eq_getElem hlt
    have hfit := hs sample List.mem_cons_self _ ht
    rw [timeIn_cons, if_pos rfl] at hfit
    have hadd := add?_eq_some_iff.mpr ⟨_, ht, by omega, rfl⟩
    have hrest : ∀ s ∈ rest, s.filter < filters := fun s hm => hr s (List.mem_cons_of_mem sample hm)
    have hsums : ∀ s ∈ rest, ∀ total,
        (samples.sum.set sample.filter ⟨samples.sum[sample.filter].nanoseconds +
          sample.duration.nanoseconds⟩)[s.filter]? = some total →
        total.nanoseconds + timeIn rest s.filter ≤ Duration.longest.nanoseconds := by
      intro s hm total htotal
      rw [List.getElem?_set] at htotal
      split at htotal
      case isTrue he =>
        rw [Option.some.injEq] at htotal
        subst htotal
        rw [← he]
        dsimp only
        omega
      case isFalse he =>
        have h := hs s (List.mem_cons_of_mem sample hm) total htotal
        rw [timeIn_cons, if_neg he, Nat.zero_add] at h
        exact h
    obtain ⟨filled, hf⟩ := ih (sized.add hadd).1 hrest hsums
    exact ⟨filled, by rw [List.foldlM_cons, hadd]; exact hf⟩

/-- In a run that has no filter twice, the time of a filter is the last one that is set, and it is
added to the sum once. -/
theorem getElem?_addAll {run : List Sample} {filled : Samples} (sized : samples.Sized filters)
    (hn : (run.map Sample.filter).Nodup) (h : run.foldlM add? samples = some filled)
    (filter : Nat) :
    (filled.last[filter]? =
      if filter ∈ run.map Sample.filter then samples.last[filter]?.map fun _ => durationIn run filter
      else samples.last[filter]?) ∧
    filled.sum[filter]? = samples.sum[filter]?.map fun total =>
      ⟨total.nanoseconds + (durationIn run filter).nanoseconds⟩ := by
  induction run generalizing samples with
  | nil =>
    obtain rfl : samples = filled := by simpa using h
    constructor
    · simp
    · cases samples.sum[filter]? <;> rfl
  | cons sample rest ih =>
    rw [List.foldlM_cons] at h
    obtain ⟨next, hnext, hf⟩ := Option.bind_eq_some_iff.mp h
    have hparts := List.nodup_cons.mp (List.map_cons ▸ hn)
    have hrest := ih (sized.add hnext).1 hparts.2 hf
    obtain ⟨total, ht, -, rfl⟩ := add?_eq_some_iff.mp hnext
    obtain ⟨hlt, rfl⟩ := List.getElem?_eq_some_iff.mp ht
    rw [durationIn_cons, hrest.1, hrest.2]
    by_cases he : sample.filter = filter
    · subst he
      have hlast : sample.filter < samples.last.length := by
        have hl := sized.last
        have hs := sized.sum
        omega
      rw [if_neg hparts.1, durationIn_of_not_mem hparts.1]
      simp [hlt, hlast, Duration.zero]
    · have hne : filter ≠ sample.filter := fun h => he h.symm
      simp [he, hne, List.getElem?_set_ne]

/-- Forgetting the last run keeps the rest. -/
theorem Sized.clear (sized : samples.Sized filters) :
    ({ samples with last := samples.last.map fun _ => .zero } : Samples).Sized filters :=
  ⟨(List.length_map _).trans sized.last, sized.sum⟩

/-- A run adds no filters. -/
theorem Sized.record {run : List Sample} {recorded : Samples} (sized : samples.Sized filters)
    (h : samples.record? run = some recorded) : recorded.Sized filters := by
  simp only [Samples.record?] at h
  obtain ⟨filled, hf, hr⟩ := Option.bind_eq_some_iff.mp h
  obtain ⟨hsized, -⟩ := sized.clear.addAll hf
  split at hr
  · obtain rfl := Option.some.inj hr
    exact ⟨hsized.last, hsized.sum⟩
  · cases hr

/-- A run that has every filter once is counted, its times are those of the last run, and they are
added to the sums. -/
theorem record?_eq {run : List Sample} {recorded : Samples} (sized : samples.Sized filters)
    (hp : (run.map Sample.filter).Perm (List.range filters))
    (h : samples.record? run = some recorded) :
    recorded.runs = samples.runs + 1 ∧
      recorded.last = (List.range filters).map (durationIn run) ∧
      ∀ filter : Nat, recorded.sum[filter]? = samples.sum[filter]?.map fun total =>
        Duration.mk (total.nanoseconds + (durationIn run filter).nanoseconds) := by
  simp only [Samples.record?] at h
  obtain ⟨filled, hf, hr⟩ := Option.bind_eq_some_iff.mp h
  have hnodup := hp.nodup_iff.mpr List.nodup_range
  have hadd := getElem?_addAll sized.clear hnodup hf
  have hfilled := sized.clear.addAll hf
  split at hr
  case isFalse => cases hr
  case isTrue =>
    obtain rfl := Option.some.inj hr
    refine ⟨congrArg (· + 1) hfilled.2, ?_, fun filter => (hadd filter).2⟩
    refine List.ext_getElem? fun filter => (hadd filter).1.trans ?_
    by_cases hm : filter < filters
    · have hin : filter ∈ run.map Sample.filter := hp.mem_iff.mpr (List.mem_range.mpr hm)
      have hl := sized.last
      rw [if_pos hin]
      simp [hm, hl]
    · have hout : filter ∉ run.map Sample.filter := fun hin =>
        hm (List.mem_range.mp (hp.mem_iff.mp hin))
      have hl := sized.last
      rw [if_neg hout]
      simp [hm, hl]

/-- A run of known filters is recorded if nothing overflows. -/
theorem Accepts.exists_record {run : List Sample} (accepts : samples.Accepts run)
    (sized : samples.Sized filters) (hr : ∀ sample ∈ run, sample.filter < filters) :
    ∃ recorded, samples.record? run = some recorded := by
  obtain ⟨filled, hf⟩ := exists_foldlM_add? sized.clear hr accepts.sums
  have hruns := (sized.clear.addAll hf).2
  refine ⟨{ filled with runs := filled.runs + 1 }, ?_⟩
  have hlt : filled.runs < mostRuns := hruns ▸ accepts.runs
  simp only [Samples.record?, hf, Option.bind_eq_bind, Option.bind_some, hlt, if_true]

end Samples

namespace Monitor

variable {monitor : Monitor} {filters : Nat}

/-- What a monitor has recorded is recorded for each of so many filters. -/
def Sized (monitor : Monitor) (filters : Nat) : Prop :=
  ∀ samples, monitor.samples = some samples → samples.Sized filters

/-- Switching monitoring on starts with no run of all filters. -/
theorem Sized.enable (sized : monitor.Sized filters) : (monitor.enable filters).Sized filters := by
  intro samples hs
  obtain rfl : monitor.samples.getD (.none filters) = samples := Option.some.inj hs
  cases hm : monitor.samples with
  | none => exact Samples.none_sized filters
  | some before => exact sized before hm

/-- Recording a run adds no filters. -/
theorem Sized.record {run : List Sample} {after : Monitor} (sized : monitor.Sized filters)
    (h : monitor.record? run = some after) : after.Sized filters := by
  intro samples hs
  simp only [record?] at h
  split at h
  · obtain rfl := Option.some.inj h
    exact sized samples hs
  case h_2 before hbefore =>
    obtain ⟨recorded, hr, rfl⟩ := Option.map_eq_some_iff.mp h
    obtain rfl : recorded = samples := Option.some.inj hs
    exact (sized before hbefore).record hr

/-- Without monitoring any run can be recorded, and with it one that overflows nothing. -/
theorem Sized.exists_record {run : List Sample} (sized : monitor.Sized filters)
    (accepts : ∀ samples, monitor.samples = some samples → samples.Accepts run)
    (known : ∀ sample ∈ run, sample.filter < filters) :
    ∃ after, monitor.record? run = some after := by
  cases hm : monitor.samples with
  | none => exact ⟨monitor, by rw [record?, hm]⟩
  | some samples =>
    obtain ⟨recorded, hr⟩ := (accepts samples hm).exists_record (sized samples hm) known
    exact ⟨⟨some recorded⟩, by rw [record?, hm, Option.map_eq_some_iff]; exact ⟨recorded, hr, rfl⟩⟩

end Monitor

end RenderGraph
