import HostWatch.Proofs.Config.Accepted
import HostWatch.Proofs.Monitor.SampleReading
set_option autoImplicit false

/-!
# Monitor: alerts about disks

The book counts readings of a key.  For a disk that is configured once these are the samples,
and an alert about it takes three bad ones (`Monitor.disk_alert_of_three_samples`).  Nothing in
the rules for a configuration forbids the same path twice, unlike the same endpoint name, and
every further mention of a path counts its reading once more: three mentions make an alert of a
single bad sample (`Monitor.disk_alert_of_one_sample`).
-/

namespace HostWatch

open HostWatch.Number
open HostWatch.Time (Instant)

/-! ## Readings of a disk -/

namespace ResourceSample

/-- The reading of a disk in a sample, if there is one and it is finite. -/
def diskReading? (path : String) (s : ResourceSample) : Option Float :=
  ((s.disks.find? fun d => d.path = path).map (·.usedPercent)).filter isFinite

/-- The finding about a disk in a sample, if there is one. -/
def diskFinding? (limits : ResourceChecks) (path : String) (s : ResourceSample) :
    Option Finding :=
  (s.disks.find? fun d => d.path = path).bind fun d => (d.gauge limits).finding? s.time

theorem map_health_diskFinding? (limits : ResourceChecks) (path : String) (s : ResourceSample) :
    (s.diskFinding? limits path).map (·.health) =
      (s.diskReading? path).map (Gauge.classify · limits.diskThreshold) := by
  unfold diskFinding? diskReading?
  cases s.disks.find? fun d => d.path = path with
  | none => rfl
  | some d => exact (d.gauge limits).map_health_finding? s.time

/-- Neither the processor nor the memory has the key of a disk. -/
theorem gauges_filter_disk (limits : ResourceChecks) (path : String) (s : ResourceSample) :
    (s.gauges limits).filter (fun g => g.key = diskKey path) =
      (s.disks.filter fun d => d.path = path).map (·.gauge limits) := by
  have hcpu : "cpu" ≠ diskKey path := fun h =>
    Subject.noConfusion (Subject.key_injective (x := .cpu) (y := .disk path) h)
  have hmemory : "memory" ≠ diskKey path := fun h =>
    Subject.noConfusion (Subject.key_injective (x := .memory) (y := .disk path) h)
  have hdisks : (s.disks.map (·.gauge limits)).filter (fun g => g.key = diskKey path) =
      (s.disks.filter fun d => d.path = path).map (·.gauge limits) := by
    rw [List.filter_map]
    refine congrArg (List.map _) (List.filter_congr fun d _ => ?_)
    exact decide_eq_decide.2 diskKey_inj
  rw [gauges, List.filter_cons_of_neg (by simpa using hcpu),
    List.filter_cons_of_neg (by simpa using hmemory)]
  exact hdisks

/-- **A sample reads a disk once**, if it holds the path once. -/
theorem ofKey_findings_disk {path : String} {s : ResourceSample}
    (honce : (s.disks.map (·.path)).count path ≤ 1) (limits : ResourceChecks) :
    Finding.ofKey (diskKey path) (s.findings limits) = (s.diskFinding? limits path).toList := by
  have honce' : ((s.gauges limits).filter fun g => g.key = diskKey path).length ≤ 1 := by
    rw [gauges_filter_disk, List.length_map, length_filter_eq_count_map DiskUsage.path]
    exact honce
  rw [ofKey_findings_of_once honce', gauges_filter_disk, List.head?_map, List.head?_filter,
    Option.bind_map]
  rfl

end ResourceSample

namespace Cycle

/-- The collector answered with one disk for each of the paths, in their order. -/
def ReportsDisks (paths : List String) : Cycle → Prop
  | resources (.ok s) => s.disks.map (·.path) = paths
  | _ => True

/-- The reading of a disk that the cycle brought, if there is one and it is finite. -/
def diskReading? (path : String) (k : Cycle) : Option Float :=
  k.sample?.bind (·.diskReading? path)

/-- The finding about a disk that the cycle brought, if there is one. -/
def diskFinding? (limits : ResourceChecks) (path : String) (k : Cycle) : Option Finding :=
  k.sample?.bind (·.diskFinding? limits path)

theorem map_health_diskFinding? (limits : ResourceChecks) (path : String) (k : Cycle) :
    (k.diskFinding? limits path).map (·.health) =
      (k.diskReading? path).map (Gauge.classify · limits.diskThreshold) := by
  unfold diskFinding? diskReading?
  cases k.sample? with
  | none => rfl
  | some s => exact s.map_health_diskFinding? limits path

theorem ofKey_findings_disk {paths : List String} {path : String} (honce : paths.count path ≤ 1)
    {k : Cycle} (hk : k.ReportsDisks paths) (limits : ResourceChecks) :
    Finding.ofKey (diskKey path) (k.findings limits) = (k.diskFinding? limits path).toList := by
  refine ofKey_findings_of_sample (x := .disk path) rfl fun s hs => ?_
  rw [eq_resources_of_sample? hs] at hk
  rw [← show s.disks.map (·.path) = paths from hk] at honce
  exact ResourceSample.ofKey_findings_disk honce limits

end Cycle

namespace Monitor

/-- **Three bad samples.**  Take any configuration that mentions a path once at most, any cycles
of a new monitor, and collectors that report the configured disks in their order.  A cycle that
queues a critical event about the disk brought a reading of it at or above the threshold, and so
did the two last cycles before it that brought a reading of the disk at all. -/
theorem disk_alert_of_three_samples (config : MonitorConfig) (channels : List String)
    (startedAt : Instant) (path : String) (honce : config.resources.diskPaths.count path ≤ 1)
    (earlier : List Cycle) (k : Cycle)
    (hreports : ∀ k' ∈ k :: earlier, k'.ReportsDisks config.resources.diskPaths)
    (hqueues : ((new config channels startedAt).play (earlier.map .cycle)).1.Queues k
      (diskKey path) .critical) :
    ∃ before x y z, earlier.filterMap (Cycle.diskReading? path) = before ++ [x, y] ∧
      k.diskReading? path = some z ∧ config.resources.diskThreshold ≤ x ∧
        config.resources.diskThreshold ≤ y ∧ config.resources.diskThreshold ≤ z := by
  let limits := config.resources
  have hreading : ∀ k' ∈ k :: earlier, Finding.ofKey (diskKey path) (k'.findings limits) =
      (k'.diskFinding? limits path).toList :=
    fun k' hk' => Cycle.ofKey_findings_disk honce (hreports k' hk') limits
  obtain ⟨f, hf, hdue⟩ := (queues_iff config channels startedAt hreading .critical).1 hqueues
  obtain ⟨hbad, hrun⟩ := AlertLevel.due?_eq_critical_iff.1 hdue
  -- This reading is bad.
  have hlast : (k.diskReading? path).map (Gauge.classify · limits.diskThreshold) =
      some .critical := by
    rw [← Cycle.map_health_diskFinding?, hf, Option.map_some, hbad]
  obtain ⟨z, hz, hlastBad⟩ := Option.map_eq_some_iff.1 hlast
  -- The verdicts before this one end with two bad ones, and so do the readings.
  have hpast : (earlier.filterMap (Cycle.diskFinding? limits path)).map (·.health) =
      (earlier.filterMap (Cycle.diskReading? path)).map
        (Gauge.classify · limits.diskThreshold) := by
    rw [List.map_filterMap, List.map_filterMap]
    exact congrArg (List.filterMap · earlier)
      (funext fun k' => k'.map_health_diskFinding? limits path)
  rw [hpast, Health.runOf_append_singleton, if_pos rfl] at hrun
  obtain ⟨verdicts, hverdicts⟩ :=
    Health.exists_append_replicate (Nat.le_of_eq (Nat.succ.inj hrun).symm)
  obtain ⟨before, lastTwo, hreadings, _, htwo⟩ := List.map_eq_append_iff.1 hverdicts
  have hlength : lastTwo.length = 2 := by simpa using congrArg List.length htwo
  obtain ⟨x, y, rfl⟩ := List.length_eq_two.1 hlength
  obtain ⟨hx, htail⟩ := List.cons.inj htwo
  obtain ⟨hy, _⟩ := List.cons.inj htail
  exact ⟨before, x, y, z, hreadings, hz, Gauge.classify_eq_critical_iff.1 hx,
    Gauge.classify_eq_critical_iff.1 hy, Gauge.classify_eq_critical_iff.1 hlastBad⟩

/-- Of three samples of a full disk that is configured once, the third one alerts. -/
theorem disk_alert_of_three_samples_full :
    let config : MonitorConfig := .initial
    let full : ResourceSample := ⟨⟨0, 0⟩, 1, ⟨0, 0, 0, 1⟩, [⟨"/", 0, 0, 0, 95⟩]⟩
    let k : Cycle := .resources (.ok full)
    config.resources.diskPaths.count "/" ≤ 1 ∧
      (∀ k' ∈ [k, k, k], k'.ReportsDisks config.resources.diskPaths) ∧
      ((new config [] ⟨0, 0⟩).play ([k, k].map .cycle)).1.Queues k (diskKey "/") .critical ∧
      ∃ before x y z, [k, k].filterMap (Cycle.diskReading? "/") = before ++ [x, y] ∧
        k.diskReading? "/" = some z ∧ config.resources.diskThreshold ≤ x ∧
          config.resources.diskThreshold ≤ y ∧ config.resources.diskThreshold ≤ z := by
  intro config full k
  have honce : config.resources.diskPaths.count "/" ≤ 1 := by decide
  have hreports : ∀ k' ∈ [k, k, k], k'.ReportsDisks config.resources.diskPaths := by
    intro k' hk'
    simp only [List.mem_cons, List.not_mem_nil, or_false, or_self] at hk'
    rw [hk']
    rfl
  have hqueues : ((new config [] ⟨0, 0⟩).play ([k, k].map .cycle)).1.Queues k (diskKey "/")
      .critical := by
    decide +kernel
  exact ⟨honce, hreports, hqueues,
    disk_alert_of_three_samples config [] ⟨0, 0⟩ "/" honce [k, k] k hreports hqueues⟩

/-- **One bad sample** is enough where an accepted configuration mentions a path three times:
the first cycle alerts, with no reading before it. -/
theorem disk_alert_of_one_sample :
    let config : MonitorConfig :=
      { MonitorConfig.initial with
        resources := { ResourceChecks.initial with diskPaths := ["/", "/", "/"] } }
    let disk : DiskUsage := ⟨"/", 0, 0, 0, 95⟩
    let full : ResourceSample := ⟨⟨0, 0⟩, 1, ⟨0, 0, 0, 1⟩, [disk, disk, disk]⟩
    let k : Cycle := .resources (.ok full)
    let earlier : List Cycle := []
    config.validate = .ok () ∧
      (∀ k' ∈ k :: earlier, k'.ReportsDisks config.resources.diskPaths) ∧
      ((new config [] ⟨0, 0⟩).play (earlier.map .cycle)).1.Queues k (diskKey "/") .critical ∧
      ¬ ∃ before x y, earlier.filterMap (Cycle.diskReading? "/") = before ++ [x, y] := by
  intro config disk full k earlier
  refine ⟨?_, ?_, ?_, ?_⟩
  · decide +kernel
  · intro k' hk'
    rw [List.mem_singleton.1 hk']
    rfl
  · decide +kernel
  · rintro ⟨before, x, y, hreadings⟩
    have hlength := congrArg List.length hreadings
    rw [List.length_append] at hlength
    exact absurd hlength (by simp [earlier])

end Monitor

end HostWatch
