import HostWatch.Proofs.Docker.Listing
import HostWatch.Proofs.Monitor.Due
set_option autoImplicit false

/-!
# Docker: containers whose details cannot be had

A container is in the list whether its details can be had or not.  Without them nothing but its
state is known, and a container that runs counts as healthy.  So a failed inspection is a reading
like any other: it leaves a stopped container in its unhealthy episode, and it ends the episode of
a running one, whose exit code or error made it critical, and warns of a recovery
(`Docker.recovers_without_details_iff`, `Docker.recovers_without_details_web`).

A container may be listed more than once as long as its name stands for one line; the book then
takes in that many readings of one verdict (`AlertBook.warns_observeAll_iff`).
-/

namespace HostWatch

open HostWatch.Time (Instant)

/-! ## Readings of one verdict -/

namespace KeyState

theorem level?_eq_warning_iff {threshold : Nat} {s : KeyState} {v : Health} {now : Instant} :
    s.level? threshold v now = some .warning ↔
      v = .ok ∧ s.health = .critical ∧ s.alerted = true := by
  cases v <;> simp [level?]

end KeyState

namespace AlertBook

/-- The verdict on the last reading of a key. -/
def health? (b : AlertBook) (key : String) : Option Health := (b.get? key).map (·.health)

/-- The key is in an unhealthy episode that has alerted. -/
def InAlert (b : AlertBook) (key : String) : Prop :=
  ∃ s, b.get? key = some s ∧ s.health = .critical ∧ s.alerted = true

theorem inAlert_iff_met (b : AlertBook) (key : String) (now : Instant) :
    b.InAlert key ↔ (b.met key now).health = .critical ∧ (b.met key now).alerted = true := by
  rw [InAlert, met]
  cases b.get? key with
  | none => simp [KeyState.fresh]
  | some s => simp

theorem not_inAlert_of_health?_eq_ok {b : AlertBook} {key : String}
    (h : b.health? key = some .ok) : ¬ b.InAlert key := by
  rintro ⟨s, hs, hcritical, _⟩
  rw [health?, hs, Option.map_some, hcritical] at h
  cases h

theorem health?_observeFinding_self (b : AlertBook) (f : Finding) :
    (b.observeFinding f).1.health? f.key = some f.health := by
  rw [health?, observeFinding, get?_observe_self, Option.map_some, KeyState.step_health,
    KeyState.Summarizes.count_health]

theorem health?_observeFinding_of_ne (b : AlertBook) {f : Finding} {key : String}
    (h : f.key ≠ key) : (b.observeFinding f).1.health? key = b.health? key := by
  rw [health?, health?, observeFinding, get?_observe_of_ne b _ _ _ h]

theorem inAlert_observeFinding_of_ne (b : AlertBook) {f : Finding} {key : String}
    (h : f.key ≠ key) : (b.observeFinding f).1.InAlert key ↔ b.InAlert key := by
  rw [InAlert, InAlert, observeFinding, get?_observe_of_ne b _ _ _ h]

theorem warns_observeFinding_iff (b : AlertBook) (f : Finding) (key : String) :
    (∃ e ∈ (b.observeFinding f).2, e.kind = key ∧ e.level = .warning) ↔
      f.key = key ∧ f.health = .ok ∧ b.InAlert key := by
  have hlevel : (b.observeFinding f).2 =
      ((b.met f.key f.time).level? b.threshold f.health f.time).map f.event := by
    rw [← KeyState.step_level]
    rfl
  have hwarns := @KeyState.level?_eq_warning_iff b.threshold (b.met f.key f.time) f.health f.time
  rw [hlevel]
  constructor
  · rintro ⟨e, he, rfl, hwarning⟩
    obtain ⟨level, hsome, rfl⟩ := Option.map_eq_some_iff.1 he
    obtain rfl : level = .warning := hwarning
    obtain ⟨hok, hmet⟩ := hwarns.1 hsome
    exact ⟨rfl, hok, (b.inAlert_iff_met _ _).2 hmet⟩
  · rintro ⟨rfl, hok, halert⟩
    have hsome := hwarns.2 ⟨hok, (b.inAlert_iff_met _ _).1 halert⟩
    exact ⟨f.event .warning, Option.map_eq_some_iff.2 ⟨_, hsome, rfl⟩, rfl, rfl⟩

theorem health?_observeAll {key : String} {v : Health} {fs : List Finding}
    (hv : ∀ f ∈ fs, f.key = key → f.health = v) {b : AlertBook}
    (h : b.health? key = some v ∨ ∃ f ∈ fs, f.key = key) :
    (b.observeAll fs).1.health? key = some v := by
  induction fs generalizing b with
  | nil => exact h.resolve_right nofun
  | cons f fs ih =>
    obtain ⟨hfirst, hrest⟩ := List.forall_mem_cons.1 hv
    refine ih hrest ?_
    by_cases hkey : f.key = key
    · subst hkey
      exact .inl (by rw [health?_observeFinding_self, hfirst rfl])
    · rw [health?_observeFinding_of_ne b hkey]
      simpa [hkey] using h

/-- **Readings of a key that all have one verdict** give a warning about it if there are any, the
verdict is good, and the key is in alert. -/
theorem warns_observeAll_iff {key : String} {v : Health} {fs : List Finding}
    (hv : ∀ f ∈ fs, f.key = key → f.health = v) (b : AlertBook) :
    (∃ e ∈ (b.observeAll fs).2, e.kind = key ∧ e.level = .warning) ↔
      (∃ f ∈ fs, f.key = key) ∧ v = .ok ∧ b.InAlert key := by
  induction fs generalizing b with
  | nil => simp
  | cons f fs ih =>
    obtain ⟨hfirst, hrest⟩ := List.forall_mem_cons.1 hv
    have hsplit : (∃ e ∈ (b.observeAll (f :: fs)).2, e.kind = key ∧ e.level = .warning) ↔
        (f.key = key ∧ f.health = .ok ∧ b.InAlert key) ∨
          (∃ g ∈ fs, g.key = key) ∧ v = .ok ∧ (b.observeFinding f).1.InAlert key := by
      rw [← warns_observeFinding_iff, ← ih hrest]
      simp only [observeAll, List.mem_append, Option.mem_toList, Option.mem_def, or_and_right,
        exists_or]
    rw [hsplit]
    by_cases hkey : f.key = key
    · subst hkey
      have hhealth := health?_observeFinding_self b f
      rw [hfirst rfl] at hhealth ⊢
      -- After a good reading nothing is left to warn about.
      have hdone : v = .ok → ¬ (b.observeFinding f).1.InAlert f.key := by
        rintro rfl
        exact not_inAlert_of_health?_eq_ok hhealth
      simp only [List.mem_cons, exists_eq_or_imp, true_or, true_and]
      exact or_iff_left fun hrest => hdone hrest.2.1 hrest.2.2
    · rw [inAlert_observeFinding_of_ne b hkey]
      simp [hkey]
end AlertBook

namespace Docker

/-! ## Containers without details -/

theorem health_finding_without_details (line : Line) (now : Instant) :
    (sampleOf line Details.none now).finding.health =
      .ofFailure (!Text.contains line.state "running") := by
  show Health.ofFailure (sampleOf line Details.none now).problem?.isSome = _
  congr 1
  cases hrunning : Text.contains line.state "running" with
  | false => simp [ContainerSample.problem?, sampleOf, hrunning]
  | true => simp [ContainerSample.problem?, sampleOf, hrunning, Details.none]

variable {runner : Runner} {stdout stderr : List UInt8} {names : List String} {now : Instant}

/-- A cycle over a list takes in one finding for each line that describes a selected container. -/
theorem findings_list (h : runner listArgs = .ok ⟨stdout, stderr, 0⟩) (checks : ResourceChecks) :
    (Cycle.containers (list runner names now)).findings checks =
      ((listed stdout).filter (Selects names ·.name)).map fun l =>
        (sampleOf l (knownDetails runner l.id) now).finding := by
  rw [list_of_listed h, Cycle.findings, List.map_map]
  rfl

/-- Where names tell the lines apart, all that a cycle reads of a container without details is
whether it is running. -/
theorem health_of_mem_findings_list (h : runner listArgs = .ok ⟨stdout, stderr, 0⟩)
    {line : Line} {fault : Fault} (hname : ∀ l ∈ listed stdout, l.name = line.name → l = line)
    (hfails : details runner line.id = .error fault) (checks : ResourceChecks) {f : Finding}
    (hf : f ∈ (Cycle.containers (list runner names now)).findings checks)
    (hkey : f.key = containerKey line.name) :
    f.health = .ofFailure (!Text.contains line.state "running") := by
  rw [findings_list h] at hf
  obtain ⟨l, hl, rfl⟩ := List.mem_map.1 hf
  obtain rfl := hname l (List.mem_of_mem_filter hl) (containerKey_inj.1 hkey)
  rw [knownDetails_of_error hfails, health_finding_without_details]

/-- **A container whose details cannot be had** counts as healthy if the list says that it is
running.  Take any monitor, a list in which names tell the lines apart, and a selected container
whose inspection fails.  The cycle gives a warning about the container, as if it had recovered,
exactly if the list says that it is running and it is in an episode that has alerted; and it ends
an unhealthy episode exactly if the list says that the container is running. -/
theorem recovers_without_details_iff (m : Monitor)
    (h : runner listArgs = .ok ⟨stdout, stderr, 0⟩) {line : Line} (hline : line ∈ listed stdout)
    (hselected : Selects names line.name)
    (hname : ∀ l ∈ listed stdout, l.name = line.name → l = line) {fault : Fault}
    (hfails : details runner line.id = .error fault) :
    let k := Cycle.containers (list runner names now)
    let key := containerKey line.name
    let running := "running".toList <:+: line.state.toList
    (m.Queues k key .warning ↔ running ∧ m.book.InAlert key) ∧
      (m.book.health? key = some .critical →
        ((m.act (.cycle k)).1.book.health? key = some .ok ↔ running)) := by
  intro k key running
  have hverdict : ∀ f ∈ k.findings m.config.resources, f.key = key →
      f.health = .ofFailure (!Text.contains line.state "running") :=
    fun f hf hkey => health_of_mem_findings_list h hname hfails _ hf hkey
  have hread : ∃ f ∈ k.findings m.config.resources, f.key = key := by
    rw [findings_list h]
    have hmem : line ∈ (listed stdout).filter (Selects names ·.name) :=
      List.mem_filter.2 ⟨hline, decide_eq_true hselected⟩
    exact ⟨_, List.mem_map_of_mem hmem, rfl⟩
  have hrunning : Health.ofFailure (!Text.contains line.state "running") = .ok ↔ running := by
    rw [Health.ofFailure_eq_ok_iff, Bool.not_eq_false', Text.contains_iff]
  constructor
  · rw [Monitor.Queues, Monitor.pushed_act_cycle, AlertBook.warns_observeAll_iff hverdict, hrunning]
    exact and_iff_right hread
  · intro _
    rw [(m.moves_act (.cycle k)).book_eq]
    rw [show Act.findings m.config.resources (.cycle k) = k.findings m.config.resources from rfl,
      AlertBook.health?_observeAll hverdict (.inr hread), Option.some_inj, hrunning]

/-- A stopped container that alerted stays in its episode while its details cannot be had. -/
theorem recovers_without_details_iff_stopped :
    let listing := "\x7b\"ID\":\"a1\",\"Names\":\"web\",\"State\":\"exited\"\x7d"
    let runner := scripted listing "" ["a1"]
    let line : Line := ⟨"a1", "web", "", "exited"⟩
    let stopped : Cycle := .containers (.ok [sampleOf line Details.none ⟨0, 0⟩])
    let m := ((Monitor.new .initial [] ⟨0, 0⟩).play ([stopped, stopped, stopped].map .cycle)).1
    let k := Cycle.containers (list runner ["web"] ⟨0, 0⟩)
    runner listArgs = .ok ⟨listing.toUTF8.toList, [], 0⟩ ∧ line ∈ listed listing.toUTF8.toList ∧
      Selects ["web"] line.name ∧
      (∀ l ∈ listed listing.toUTF8.toList, l.name = line.name → l = line) ∧
      (∃ fault, details runner line.id = .error fault) ∧
      m.book.health? (containerKey line.name) = some .critical ∧
      ¬ m.Queues k (containerKey line.name) .warning ∧
      (m.act (.cycle k)).1.book.health? (containerKey line.name) ≠ some .ok := by
  intro listing runner line stopped m k
  have hlist : runner listArgs = .ok ⟨listing.toUTF8.toList, [], 0⟩ := rfl
  have hlisted : listed listing.toUTF8.toList = [line] := by decide +kernel
  have hline : line ∈ listed listing.toUTF8.toList := by
    rw [hlisted]
    exact List.mem_singleton_self line
  have hname : ∀ l ∈ listed listing.toUTF8.toList, l.name = line.name → l = line := by
    intro l hl _
    rw [hlisted] at hl
    exact List.mem_singleton.1 hl
  have hselected : Selects ["web"] line.name := by decide
  have hfails : details runner line.id = .error (.containers "no container info found") := by
    decide +kernel
  have hcritical : m.book.health? (containerKey line.name) = some .critical := by decide +kernel
  have hstopped : ¬ "running".toList <:+: line.state.toList := by
    rw [← Text.contains_iff]
    decide
  obtain ⟨hwarns, hends⟩ := recovers_without_details_iff m hlist hline hselected hname hfails
  exact ⟨hlist, hline, hselected, hname, ⟨_, hfails⟩, hcritical,
    fun hqueues => hstopped (hwarns.1 hqueues).1, fun hok => hstopped ((hends hcritical).1 hok)⟩

/-- **A recovery that never happened.**  A running container reports an error with its exit
code in three cycles, which alerts.  In the next cycle its details cannot be had, and the cycle
gives a warning and ends the episode. -/
theorem recovers_without_details_web :
    let listing := "\x7b\"ID\":\"a1\",\"Names\":\"web\",\"State\":\"running\"\x7d"
    let answer := "[\x7b\"State\":\x7b\"ExitCode\":1\x7d\x7d]"
    let failing := Cycle.containers (list (scripted listing answer []) [] ⟨0, 0⟩)
    let unknown := Cycle.containers (list (scripted listing answer ["a1"]) [] ⟨0, 0⟩)
    let m := ((Monitor.new .initial [] ⟨0, 0⟩).play ([failing, failing, failing].map .cycle)).1
    (∃ fault, details (scripted listing answer ["a1"]) "a1" = .error fault) ∧
      m.book.health? (containerKey "web") = some .critical ∧
      m.Queues unknown (containerKey "web") .warning ∧
      (m.act (.cycle unknown)).1.book.health? (containerKey "web") = some .ok := by
  intro listing answer failing unknown m
  have hfails : details (scripted listing answer ["a1"]) "a1" =
      .error (.containers "no container info found") := by
    decide +kernel
  -- The two lists are read once, and not again in every cycle.
  have hfailing : list (scripted listing answer []) [] ⟨0, 0⟩ =
      .ok [sampleOf ⟨"a1", "web", "", "running"⟩ ⟨0, 1, .none⟩ ⟨0, 0⟩] := by
    decide +kernel
  have hunknown : list (scripted listing answer ["a1"]) [] ⟨0, 0⟩ =
      .ok [sampleOf ⟨"a1", "web", "", "running"⟩ Details.none ⟨0, 0⟩] := by
    decide +kernel
  refine ⟨⟨_, hfails⟩, ?_⟩
  simp only [m, failing, unknown, hfailing, hunknown]
  decide +kernel

end Docker

end HostWatch
