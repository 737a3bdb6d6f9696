import HostWatch.Proofs.Monitor.Due
set_option autoImplicit false

/-!
# Monitor: the readings of a sample

A percentage of a sample is read if it is finite, and the verdict on it is a matter of its
threshold (`Gauge.map_health_finding?`).  What a cycle reads of a key that its sample holds
once is that one percentage (`Cycle.ofKey_findings_of_sample`); a cycle that brought no sample
reads nothing.
-/

namespace HostWatch

open HostWatch.Number
open HostWatch.Time (Instant)

namespace Gauge

theorem classify_eq_critical_iff {value threshold : Float} :
    classify value threshold = .critical ↔ threshold ≤ value := by
  rw [classify, Health.ofFailure_eq_critical_iff, decide_eq_true_eq]

theorem classify_eq_ok_iff {value threshold : Float} :
    classify value threshold = .ok ↔ ¬ threshold ≤ value := by
  rw [classify, Health.ofFailure_eq_ok_iff, decide_eq_false_iff_not]

theorem map_health_finding? (g : Gauge) (time : Instant) :
    (g.finding? time).map (·.health) =
      ((some g.value).filter isFinite).map (classify · g.threshold) := by
  rw [Option.filter_some, finding?]
  cases isFinite g.value with
  | false => rfl
  | true => rfl

end Gauge

/-- What a disk is held against. -/
def DiskUsage.gauge (checks : ResourceChecks) (d : DiskUsage) : Gauge :=
  ⟨diskKey d.path, "Disk usage on " ++ d.path, d.usedPercent, checks.diskThreshold⟩

/-- **A sample reads a key once**, if it holds it once. -/
theorem ResourceSample.ofKey_findings_of_once {key : String} {limits : ResourceChecks}
    {s : ResourceSample} (honce : ((s.gauges limits).filter fun g => g.key = key).length ≤ 1) :
    Finding.ofKey key (s.findings limits) =
      (((s.gauges limits).filter fun g => g.key = key).head?.bind (·.finding? s.time)).toList := by
  have hkey : ∀ g ∈ s.gauges limits, ∀ f, g.finding? s.time = some f →
      (f.key = key ↔ decide (g.key = key) = true) := by
    intro g _ f hf
    rw [Gauge.key_of_finding?_eq hf, decide_eq_true_eq]
  rw [findings, Finding.ofKey_filterMap_of_once hkey honce, List.head?_filter]

namespace Cycle

/-- The sample that a resource cycle brought. -/
def sample? : Cycle → Option ResourceSample
  | resources outcome => outcome.toOption
  | _ => none

theorem eq_resources_of_sample? {k : Cycle} {s : ResourceSample} (h : k.sample? = some s) :
    k = .resources (.ok s) := by
  cases k with
  | resources outcome =>
    cases outcome with
    | error fault => cases h
    | ok s' => rw [Option.some.inj h]
  | endpoints outcomes => cases h
  | containers outcome => cases h
  | noRuntime => cases h
  | dispatch now replies => cases h
  | broken d => cases h

/-- A cycle reads a resource from its sample, and not at all without one. -/
theorem ofKey_findings_of_sample {x : Subject} (hx : x.domain = .resources)
    {limits : ResourceChecks} {read : ResourceSample → Option Finding} {k : Cycle}
    (h : ∀ s, k.sample? = some s → Finding.ofKey x.key (s.findings limits) = (read s).toList) :
    Finding.ofKey x.key (k.findings limits) = (k.sample?.bind read).toList := by
  have hother : k.domain ≠ .resources → Finding.ofKey x.key (k.findings limits) = [] :=
    fun hk => ofKey_findings_of_domain_ne (hx ▸ hk) limits
  cases k with
  | resources outcome =>
    cases outcome with
    | error fault => rfl
    | ok s => exact h s rfl
  | endpoints outcomes => exact hother nofun
  | containers outcome => exact hother nofun
  | noRuntime => rfl
  | dispatch now replies => rfl
  | broken d => rfl

end Cycle

end HostWatch
