import HostWatch.Proofs.Monitor.SampleReading
import HostWatch.Proofs.Number.Order
set_option autoImplicit false

/-!
# Monitor: runs of high load

Every sample has one percentage for the processor and one for the memory.  A percentage that
is not finite is no reading; the sample is recorded all the same, and its other percentages
are read.

So what a cycle queues about the processor is a matter of the finite readings of the processor
alone: a critical event with the third reading in a row at or above the threshold, and a
warning with the first reading below it after three or more (`Monitor.resourceCycle_queues`).
The memory has its own readings, and the same law.
-/

namespace HostWatch

open HostWatch.Number
open HostWatch.Time (Instant)

/-! ## Readings of a load -/

/-- A load of the whole host. -/
inductive Load where
  | cpu
  | memory
  deriving DecidableEq, Repr, Inhabited

namespace Load

/-- The load as something that is watched. -/
def subject : Load → Subject
  | cpu => .cpu
  | memory => .memory

/-- The key of a load in the book. -/
def key (x : Load) : String := x.subject.key

/-- How the messages call a load. -/
def label : Load → String
  | cpu => "CPU usage"
  | memory => "Memory usage"

/-- The percentage that a sample holds. -/
def value (s : ResourceSample) : Load → Float
  | cpu => s.cpuPercent
  | memory => s.memory.usedPercent

/-- The percentage that is high. -/
def threshold (limits : ResourceChecks) : Load → Float
  | cpu => limits.cpuThreshold
  | memory => limits.memoryThreshold

/-- What the percentage in a sample is held against. -/
def gauge (limits : ResourceChecks) (s : ResourceSample) (x : Load) : Gauge :=
  ⟨x.key, x.label, x.value s, x.threshold limits⟩

theorem gauges_eq (limits : ResourceChecks) (s : ResourceSample) :
    s.gauges limits = cpu.gauge limits s :: memory.gauge limits s ::
      s.disks.map (·.gauge limits) := rfl

theorem key_ne_diskKey (x : Load) (path : String) : diskKey path ≠ x.key := by
  intro h
  have hsame : Subject.disk path = x.subject := Subject.key_injective h
  cases x <;> cases hsame

theorem gauges_filter (limits : ResourceChecks) (s : ResourceSample) (x : Load) :
    (s.gauges limits).filter (fun g => g.key = x.key) = [x.gauge limits s] := by
  have hloads : Load.cpu.key ≠ Load.memory.key := by decide
  have hdisks : (s.disks.map (·.gauge limits)).filter (fun g => g.key = x.key) = [] := by
    rw [List.filter_eq_nil_iff]
    intro g hg
    obtain ⟨d, _, rfl⟩ := List.mem_map.1 hg
    exact mt of_decide_eq_true (x.key_ne_diskKey d.path)
  rw [gauges_eq, List.filter_cons, List.filter_cons, hdisks]
  cases x with
  | cpu => simp [gauge, hloads.symm]
  | memory => simp [gauge, hloads]

/-- The reading of a load in a sample, if it is finite. -/
def reading? (s : ResourceSample) (x : Load) : Option Float := (some (x.value s)).filter isFinite

end Load

namespace Cycle

/-- The reading of a load that the cycle brought, if there is one and it is finite. -/
def loadReading? (x : Load) (k : Cycle) : Option Float := k.sample?.bind (x.reading? ·)

/-- The finding about a load that the cycle brought, if there is one. -/
def loadFinding? (limits : ResourceChecks) (x : Load) (k : Cycle) : Option Finding :=
  k.sample?.bind fun s => (x.gauge limits s).finding? s.time

/-- **A cycle reads a load once**, if it brought a reading of it, and not at all otherwise. -/
theorem ofKey_findings_load (limits : ResourceChecks) (x : Load) (k : Cycle) :
    Finding.ofKey x.key (k.findings limits) = (k.loadFinding? limits x).toList := by
  have hx : x.subject.domain = .resources := by cases x <;> rfl
  refine ofKey_findings_of_sample hx fun s _ => ?_
  have hgauges := x.gauges_filter limits s
  have honce : ((s.gauges limits).filter fun g => g.key = x.subject.key).length ≤ 1 :=
    Nat.le_of_eq (congrArg List.length hgauges)
  rw [ResourceSample.ofKey_findings_of_once honce]
  exact congrArg (fun gs => (gs.head?.bind (·.finding? s.time)).toList) hgauges

theorem isFinite_of_loadReading? {x : Load} {k : Cycle} {v : Float}
    (h : k.loadReading? x = some v) : isFinite v = true := by
  obtain ⟨s, _, hv⟩ := Option.bind_eq_some_iff.1 h
  exact (Option.filter_eq_some_iff.1 hv).2

theorem map_health_loadFinding? (limits : ResourceChecks) (x : Load) (k : Cycle) :
    (k.loadFinding? limits x).map (·.health) =
      (k.loadReading? x).map (Gauge.classify · (x.threshold limits)) := by
  unfold loadFinding? loadReading?
  cases k.sample? with
  | none => rfl
  | some s => exact (x.gauge limits s).map_health_finding? s.time

end Cycle

/-! ## Runs of high readings -/

/-- How many readings in a row at or above a limit the readings end with. -/
def highRun (limit : Float) (readings : List Float) : Nat :=
  (readings.rtakeWhile fun v => decide (limit ≤ v)).length

theorem runOf_map_classify (limit : Float) (readings : List Float) :
    Health.runOf .critical (readings.map (Gauge.classify · limit)) = highRun limit readings := by
  have htests : (fun v => decide (Gauge.classify v limit = .critical)) =
      fun v => decide (limit ≤ v) :=
    funext fun v => decide_eq_decide.2 Gauge.classify_eq_critical_iff
  rw [Health.runOf_map, htests, highRun]

theorem exists_le_of_highRun_pos {limit : Float} {readings : List Float}
    (h : 0 < highRun limit readings) : ∃ v, limit ≤ v := by
  obtain ⟨high, hmem⟩ := List.exists_mem_of_length_pos h
  have hhigh : decide (limit ≤ high) = true :=
    List.mem_rtakeWhile_imp (p := fun v => decide (limit ≤ v)) hmem
  exact ⟨high, of_decide_eq_true hhigh⟩

namespace AlertLevel

variable {threshold : Nat} {limit value : Float} {past : List Float}

/-- A critical event is due when a high reading makes the run as long as the threshold. -/
theorem due?_classify_eq_critical_iff :
    due? threshold (past.map (Gauge.classify · limit)) (Gauge.classify value limit) =
        some .critical ↔
      limit ≤ value ∧ highRun limit (past ++ [value]) = threshold := by
  rw [due?_eq_critical_iff, Gauge.classify_eq_critical_iff]
  refine and_congr_right fun hhigh => ?_
  rw [← runOf_map_classify, List.map_append, List.map_singleton,
    Gauge.classify_eq_critical_iff.2 hhigh]

/-- A warning is due when a finite reading below the limit ends a run that was as long as the
threshold.  That there was such a run shows that the limit is a number. -/
theorem due?_classify_eq_warning_iff (hpos : 0 < threshold) (hvalue : isFinite value = true) :
    due? threshold (past.map (Gauge.classify · limit)) (Gauge.classify value limit) =
        some .warning ↔
      value < limit ∧ threshold ≤ highRun limit past := by
  rw [due?_eq_warning_iff, Gauge.classify_eq_ok_iff, runOf_map_classify]
  have hbelow : threshold ≤ highRun limit past → (value < limit ↔ ¬ limit ≤ value) := by
    intro hlong
    obtain ⟨high, hhigh⟩ := exists_le_of_highRun_pos (Nat.lt_of_lt_of_le hpos hlong)
    exact lt_iff_not_le hvalue hhigh
  constructor
  · rintro ⟨hlow, _, hlong⟩
    exact ⟨(hbelow hlong).2 hlow, hlong⟩
  · rintro ⟨hlow, hlong⟩
    refine ⟨(hbelow hlong).1 hlow, Health.getLast?_eq_of_runOf_pos ?_, hlong⟩
    rw [runOf_map_classify]
    exact Nat.lt_of_lt_of_le hpos hlong

end AlertLevel

namespace Monitor

/-! ## The samples in the history -/

/-- **One cycle** appends the sample that it brought, whatever its percentages are. -/
theorem resources_act (m : Monitor) (k : Cycle) :
    (m.act (.cycle k)).1.history.resources = m.history.resources.extend k.sample?.toList := by
  cases k with
  | resources outcome =>
    cases outcome with
    | error fault => exact (Window.extend_nil _).symm
    | ok s =>
      show (m.applyAll [] (Effect.ofBatch (.resource s) _)).1.history.resources = _
      rw [applyAll_ofBatch]
      exact Window.append_eq_extend _ s
  | endpoints outcomes =>
    show (m.applyAll [] (Effect.ofEndpoints outcomes)).1.history.resources = _
    rw [Effect.ofEndpoints]
    cases Effect.results outcomes with
    | nil => exact (Window.extend_nil _).symm
    | cons r rs =>
      rw [applyAll_ofBatch]
      exact (Window.extend_nil _).symm
  | containers outcome =>
    cases outcome with
    | error fault => exact (Window.extend_nil _).symm
    | ok cs =>
      show (m.applyAll [] (Effect.ofBatch (.containers cs) _)).1.history.resources = _
      rw [applyAll_ofBatch]
      exact (Window.extend_nil _).symm
  | noRuntime => exact (Window.extend_nil _).symm
  | dispatch now replies => exact (Window.extend_nil _).symm
  | broken d => exact (Window.extend_nil _).symm

/-- **A run** appends the samples of its cycles in their order. -/
theorem resources_play (m : Monitor) (cycles : List Cycle) :
    (m.play (cycles.map .cycle)).1.history.resources =
      m.history.resources.extend (cycles.filterMap Cycle.sample?) := by
  induction cycles generalizing m with
  | nil => exact (Window.extend_nil _).symm
  | cons k cycles ih =>
    rw [List.map_cons, play, ih, resources_act, Window.extend_extend,
      List.filterMap_eq_flatMap_toList, List.filterMap_eq_flatMap_toList, List.flatMap_cons]

/-! ## The events of a cycle -/

theorem get?_act_of_loadReading?_eq_none (m : Monitor) {k : Cycle} {x : Load}
    (h : k.loadReading? x = none) :
    (m.act (.cycle k)).1.book.get? x.key = m.book.get? x.key := by
  have hfinding := k.map_health_loadFinding? m.config.resources x
  rw [h, Option.map_none, Option.map_eq_none_iff] at hfinding
  have hreads := k.ofKey_findings_load m.config.resources x
  rw [hfinding, Option.toList_none] at hreads
  rw [(m.moves_act (.cycle k)).book_eq]
  exact m.book.get?_observeAll_of_ofKey_eq_nil hreads

variable (config : MonitorConfig) (channels : List String) (startedAt : Instant)

/-- A cycle queues an event about a load when it brought a reading of it and the event is due
with the verdict on this reading, after those on the earlier ones. -/
theorem queues_load_iff (x : Load) (earlier : List Cycle) (k : Cycle) (level : AlertLevel) :
    let m := ((new config channels startedAt).play (earlier.map .cycle)).1
    let limit := x.threshold config.resources
    m.Queues k x.key level ↔
      ∃ v, k.loadReading? x = some v ∧
        AlertLevel.due? AlertBook.defaultThreshold.toNat
          ((earlier.filterMap (Cycle.loadReading? x)).map (Gauge.classify · limit))
          (Gauge.classify v limit) = some level := by
  intro m limit
  have hreading : ∀ k' ∈ k :: earlier, Finding.ofKey x.key (k'.findings config.resources) =
      (k'.loadFinding? config.resources x).toList :=
    fun k' _ => k'.ofKey_findings_load config.resources x
  have hpast : (earlier.filterMap (Cycle.loadFinding? config.resources x)).map (·.health) =
      (earlier.filterMap (Cycle.loadReading? x)).map (Gauge.classify · limit) := by
    rw [List.map_filterMap, List.map_filterMap]
    exact congrArg (List.filterMap · earlier)
      (funext fun k' => k'.map_health_loadFinding? config.resources x)
  have hqueues := queues_iff config channels startedAt hreading level
  rw [hpast] at hqueues
  refine Iff.trans hqueues ?_
  -- Only the verdict of the finding matters, and it is the one on the reading.
  have hverdict := k.map_health_loadFinding? config.resources x
  constructor
  · rintro ⟨f, hf, hdue⟩
    rw [hf, Option.map_some] at hverdict
    obtain ⟨v, hv, hhealth⟩ := Option.map_eq_some_iff.1 hverdict.symm
    exact ⟨v, hv, hhealth ▸ hdue⟩
  · rintro ⟨v, hv, hdue⟩
    rw [hv, Option.map_some] at hverdict
    obtain ⟨f, hf, hhealth⟩ := Option.map_eq_some_iff.1 hverdict
    exact ⟨f, hf, hhealth ▸ hdue⟩

theorem length_ofKind_load (x : Load) (earlier : List Cycle) (k : Cycle) :
    let m := ((new config channels startedAt).play (earlier.map .cycle)).1
    (AlertEvent.ofKind x.key (m.act (.cycle k)).2.pushed).length ≤ 1 := by
  intro m
  have hevents := ofKind_pushed config channels startedAt earlier k x.key
  rw [k.ofKey_findings_load config.resources x] at hevents
  rw [hevents]
  exact (Finding.length_dueAfter _ _ _).trans Option.length_toList_le

/-- **Runs of high load.**  Take any configuration, any cycles of a new monitor, and then a
resource cycle.  The cycle queues a critical event about the processor exactly if its reading
of the processor is finite and at or above the threshold, and is the third in the run of such
readings that is under way; and a warning exactly if its reading is finite and below the
threshold, right after a run of at least three at or above it.  It queues no more than one
event about the processor.  Cycles that failed and readings that are not finite are no part of
this, and leave the state of the processor in the book as it was.  The same holds for the
memory.  The history holds the latest samples, and every sample came into it. -/
theorem resourceCycle_queues (earlier : List Cycle) (outcome : Except Fault ResourceSample) :
    let m := ((new config channels startedAt).play (earlier.map .cycle)).1
    let r := m.resourceCycle outcome
    let queued := r.2.queued
    let k := Cycle.resources outcome
    let capacity :=
      if config.historyCapacity.toNat = 0 then defaultCapacity else config.historyCapacity.toNat
    r.1.pending.toList = m.pending.toList ++ queued ∧
      r.1.history.resources = outcome.toOption.toList.foldl Window.append m.history.resources ∧
      r.1.history.resources.entries =
        lastEntries capacity ((earlier ++ [k]).filterMap Cycle.sample?) ∧
      ∀ x : Load,
        let limit := x.threshold config.resources
        let past := earlier.filterMap (Cycle.loadReading? x)
        ((∃ e ∈ queued, e.kind = x.key ∧ e.level = .critical) ↔
            ∃ v, k.loadReading? x = some v ∧ limit ≤ v ∧ highRun limit (past ++ [v]) = 3) ∧
          ((∃ e ∈ queued, e.kind = x.key ∧ e.level = .warning) ↔
            ∃ v, k.loadReading? x = some v ∧ v < limit ∧ 3 ≤ highRun limit past) ∧
          (AlertEvent.ofKind x.key queued).length ≤ 1 ∧
          (k.loadReading? x = none → r.1.book.get? x.key = m.book.get? x.key) := by
  intro m r queued k capacity
  have hpushed : (m.act (.cycle k)).2.pushed = queued :=
    (m.moves_applyAll (Effect.carry_ofResources m.config.resources outcome)).2.symm
  have hsample : r.1.history.resources =
      m.history.resources.extend outcome.toOption.toList := m.resources_act k
  refine ⟨?_, ?_, ?_, ?_⟩
  · rw [← hpushed]
    exact m.pending_act (k := k) nofun
  · rw [hsample, Window.extend_eq_foldl]
  · have hrun : m.history.resources = (Window.new config.historyCapacity.toNat).extend
        (earlier.filterMap Cycle.sample?) := resources_play _ earlier
    rw [hsample, hrun, Window.extend_extend, List.filterMap_append]
    show lastEntries capacity ([] ++ _) = _
    rw [List.nil_append]
    cases outcome <;> rfl
  · intro x limit past
    have hqueues : ∀ level, (∃ e ∈ queued, e.kind = x.key ∧ e.level = level) ↔
        ∃ v, k.loadReading? x = some v ∧
          AlertLevel.due? AlertBook.defaultThreshold.toNat
            (past.map (Gauge.classify · limit)) (Gauge.classify v limit) = some level := by
      intro level
      rw [← hpushed]
      exact queues_load_iff config channels startedAt x earlier k level
    refine ⟨?_, ?_, ?_, ?_⟩
    · refine (hqueues .critical).trans (exists_congr fun v => and_congr_right fun _ => ?_)
      exact AlertLevel.due?_classify_eq_critical_iff
    · refine (hqueues .warning).trans (exists_congr fun v => and_congr_right fun hv => ?_)
      exact AlertLevel.due?_classify_eq_warning_iff (by decide) (k.isFinite_of_loadReading? hv)
    · rw [← hpushed]
      exact length_ofKind_load config channels startedAt x earlier k
    · exact fun hnone => m.get?_act_of_loadReading?_eq_none (k := k) hnone

/-- Two samples of a busy processor, one whose percentage is no number, a collection that
failed, and a third busy sample, which tells nothing of the memory. -/
theorem resourceCycle_queues_third_high :
    let config : MonitorConfig := .initial
    let sample (cpu memory : Float) : Except Fault ResourceSample :=
      .ok ⟨⟨0, 0⟩, cpu, ⟨0, 0, 0, memory⟩, []⟩
    let earlier : List Cycle :=
      [.resources (sample 95 1), .resources (sample (0 / 0) 1), .resources (sample 95 1),
        .resources (.error (.collection "no answer"))]
    let m := ((new config [] ⟨0, 0⟩).play (earlier.map .cycle)).1
    let last := sample 95 (1 / 0)
    (∃ e ∈ (m.resourceCycle last).2.queued, e.kind = Load.cpu.key ∧ e.level = .critical) ∧
      (Cycle.resources last).loadReading? .memory = none ∧
      (m.resourceCycle last).1.book.get? Load.memory.key = m.book.get? Load.memory.key := by
  intro config sample earlier m last
  obtain ⟨_, _, _, hloads⟩ := resourceCycle_queues config [] ⟨0, 0⟩ earlier last
  have hhigh : ∃ v, (Cycle.resources last).loadReading? .cpu = some v ∧
      Load.cpu.threshold config.resources ≤ v ∧
      highRun (Load.cpu.threshold config.resources)
        (earlier.filterMap (Cycle.loadReading? .cpu) ++ [v]) = 3 := by
    refine ⟨95, ?_⟩
    decide +kernel
  have hmemory : (Cycle.resources last).loadReading? .memory = none := by decide +kernel
  exact ⟨(hloads .cpu).1.2 hhigh, hmemory, (hloads .memory).2.2.2 hmemory⟩

end Monitor

end HostWatch
