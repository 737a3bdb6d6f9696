import Mathlib.Data.List.Nodup
import HostWatch.Proofs.Config.Accepted
import HostWatch.Proofs.Monitor.Due
set_option autoImplicit false

/-!
# Monitor: failing runs of endpoints

The book counts readings of a key, and not rounds of probes.  That it counts rounds after
all comes from the configuration: an accepted one has no two endpoints of the same name, so
a round reads the key of an endpoint at most once (`Cycle.ofKey_findings_attempt`), and a
round in which its probe could not be made does not read it at all.

So a round queues a critical event about an endpoint with the third failed attempt in a row,
and a warning with the first attempt that succeeds after three or more failed ones
(`Monitor.endpointCycle_queues`).
-/

namespace HostWatch

open HostWatch.Time (Instant)

theorem eq_ok_of_toOption {α : Type} {outcome : Except Fault α} {a : α}
    (h : outcome.toOption = some a) : outcome = .ok a := by
  cases outcome with
  | error fault => cases h
  | ok a' => exact congrArg Except.ok (Option.some.inj h)

theorem EndpointResult.health_finding (r : EndpointResult) :
    r.finding.health = .ofFailure !r.success := rfl

namespace Cycle

/-- The probes of an endpoint cycle are those of the configured checks, in their order, and
the results carry the names of their checks. -/
def ProbesFor (checks : List EndpointCheck) : Cycle → Prop
  | endpoints outcomes =>
    outcomes.map Prod.fst = checks ∧ ∀ o ∈ outcomes, ∀ r, o.2 = .ok r → r.name = o.1.name
  | _ => True

/-- What the attempt to probe an endpoint came to, if the cycle made one. -/
def attempt? (check : EndpointCheck) : Cycle → Option EndpointResult
  | endpoints outcomes => (outcomes.find? fun o => o.1 = check).bind fun o => o.2.toOption
  | _ => none

/-- The verdicts on the attempts to probe an endpoint, in their order. -/
def attempts (check : EndpointCheck) (cycles : List Cycle) : List Health :=
  (cycles.filterMap (attempt? check)).map fun r => .ofFailure !r.success

variable {outcomes : List (EndpointCheck × Except Fault EndpointResult)}

/-- **A round reads an endpoint once**, if its attempt was made, and not at all otherwise. -/
theorem ofKey_results {check : EndpointCheck}
    (hnames : ∀ o ∈ outcomes, ∀ r, o.2 = .ok r → r.name = o.1.name)
    (hnodup : ((outcomes.map Prod.fst).map (·.name)).Nodup)
    (hcheck : check ∈ outcomes.map Prod.fst) :
    Finding.ofKey (endpointKey check.name)
        ((Effect.results outcomes).map EndpointResult.finding) =
      (((endpoints outcomes).attempt? check).map EndpointResult.finding).toList := by
  -- Of the configured checks this one alone has the name.
  have hsame : ∀ o ∈ outcomes, o.1.name = check.name → o.1 = check := fun o ho hname =>
    List.inj_on_of_nodup_map hnodup (List.mem_map_of_mem ho) hcheck hname
  have honce : (outcomes.filter fun o => o.1 = check).length ≤ 1 := by
    rw [length_filter_eq_count_map Prod.fst]
    exact List.nodup_iff_count_le_one.1 (List.Nodup.of_map _ hnodup) check
  have hkey : ∀ o ∈ outcomes, ∀ f, o.2.toOption.map EndpointResult.finding = some f →
      (f.key = endpointKey check.name ↔ decide (o.1 = check) = true) := by
    intro o ho f hf
    obtain ⟨r, hr, rfl⟩ := Option.map_eq_some_iff.1 hf
    have hname : r.name = o.1.name := hnames o ho r (eq_ok_of_toOption hr)
    rw [EndpointResult.finding, endpointKey_inj, hname, decide_eq_true_eq]
    exact ⟨hsame o ho, congrArg EndpointCheck.name⟩
  rw [Effect.results, List.map_filterMap, Finding.ofKey_filterMap_of_once hkey honce, attempt?,
    Option.map_bind]
  rfl

theorem ofKey_findings_attempt {checks : List EndpointCheck}
    (hnodup : (checks.map (·.name)).Nodup) {check : EndpointCheck} (hcheck : check ∈ checks)
    {k : Cycle} (hk : k.ProbesFor checks) (limits : ResourceChecks) :
    Finding.ofKey (endpointKey check.name) (k.findings limits) =
      ((k.attempt? check).map EndpointResult.finding).toList := by
  have hother : k.domain ≠ .endpoints →
      Finding.ofKey (endpointKey check.name) (k.findings limits) = [] :=
    fun h => ofKey_findings_of_domain_ne (x := .endpoint check.name) h limits
  cases k with
  | endpoints outcomes =>
    obtain ⟨rfl, hnames⟩ := hk
    exact ofKey_results hnames hnodup hcheck
  | resources outcome => exact hother nofun
  | containers outcome => exact hother nofun
  | noRuntime => rfl
  | dispatch now replies => rfl
  | broken d => rfl

/-- A round reads the endpoints in the order of their checks, each at most once. -/
theorem map_key_results_sublist
    (hnames : ∀ o ∈ outcomes, ∀ r, o.2 = .ok r → r.name = o.1.name) :
    (((Effect.results outcomes).map EndpointResult.finding).map (·.key)).Sublist
      ((outcomes.map Prod.fst).map fun c => endpointKey c.name) := by
  induction outcomes with
  | nil => exact List.Sublist.refl _
  | cons o outcomes ih =>
    obtain ⟨hfirst, hrest⟩ := List.forall_mem_cons.1 hnames
    obtain ⟨check, outcome⟩ := o
    cases outcome with
    | error fault => exact (ih hrest).cons _
    | ok r =>
      have hkey : r.finding.key = endpointKey check.name := congrArg endpointKey (hfirst r rfl)
      rw [List.map_cons, List.map_cons, ← hkey]
      exact (ih hrest).cons_cons _

end Cycle

namespace Monitor

/-- **Failing runs of endpoints.**  Take an accepted configuration, any cycles of a new monitor,
and then a round of probes.  The round queues a critical event about a configured endpoint
exactly if its attempt was made and failed, and it is the third in the run of failed attempts
of this endpoint that is under way; and a warning exactly if the attempt succeeded right after
a run of at least three failed ones.  Rounds in which the attempt could not be made are no part
of this, and neither are other endpoints.  The events of a round are in the order of the
configuration, at most one for each endpoint. -/
theorem endpointCycle_queues (config : MonitorConfig) (channels : List String)
    (startedAt : Instant) (hvalid : config.validate = .ok ()) (earlier : List Cycle)
    (outcomes : List (EndpointCheck × Except Fault EndpointResult))
    (hprobes : ∀ k ∈ .endpoints outcomes :: earlier, k.ProbesFor config.endpoints.checks) :
    let m := ((new config channels startedAt).play (earlier.map .cycle)).1
    let queued := (m.endpointCycle outcomes).2.queued
    let kinds := config.endpoints.checks.map fun c => endpointKey c.name
    (m.endpointCycle outcomes).1.pending.toList = m.pending.toList ++ queued ∧
      (∀ check ∈ config.endpoints.checks,
        let past := Cycle.attempts check earlier
        ((∃ e ∈ queued, e.kind = endpointKey check.name ∧ e.level = .critical) ↔
            ∃ r, (Cycle.endpoints outcomes).attempt? check = some r ∧ r.success = false ∧
              Health.runOf .critical (past ++ [.critical]) = 3) ∧
          ((∃ e ∈ queued, e.kind = endpointKey check.name ∧ e.level = .warning) ↔
            ∃ r, (Cycle.endpoints outcomes).attempt? check = some r ∧ r.success = true ∧
              3 ≤ Health.runOf .critical past)) ∧
      kinds.Nodup ∧ (queued.map (·.kind)).Sublist kinds := by
  intro m queued kinds
  have hnodup := MonitorConfig.nodup_names_of_validate hvalid
  have hpushed : (m.act (.cycle (.endpoints outcomes))).2.pushed = queued :=
    (m.moves_applyAll (Effect.carry_ofEndpoints m.config.resources outcomes)).2.symm
  refine ⟨?_, ?_, ?_, ?_⟩
  · rw [← hpushed]
    exact m.pending_act (k := .endpoints outcomes) nofun
  · intro check hcheck past
    have hreading : ∀ k ∈ .endpoints outcomes :: earlier,
        Finding.ofKey (endpointKey check.name) (k.findings config.resources) =
          ((k.attempt? check).map EndpointResult.finding).toList :=
      fun k hk => Cycle.ofKey_findings_attempt hnodup hcheck (hprobes k hk) config.resources
    have hpast : (earlier.filterMap fun k => (k.attempt? check).map EndpointResult.finding).map
        (·.health) = past := by
      rw [← List.map_filterMap, List.map_map]
      rfl
    have hqueues : ∀ level,
        (∃ e ∈ queued, e.kind = endpointKey check.name ∧ e.level = level) ↔
          ∃ r, (Cycle.endpoints outcomes).attempt? check = some r ∧
            AlertLevel.due? AlertBook.defaultThreshold.toNat past r.finding.health =
              some level := by
      intro level
      have hdue := queues_iff config channels startedAt hreading level
      rw [hpast] at hdue
      simp only [Option.map_eq_some_iff, exists_exists_and_eq_and] at hdue
      rw [← hpushed]
      exact hdue
    constructor
    · refine (hqueues .critical).trans ?_
      simp only [AlertLevel.due?_eq_critical_iff, EndpointResult.health_finding,
        Health.ofFailure_eq_critical_iff, Bool.not_eq_true']
      rfl
    · refine (hqueues .warning).trans ?_
      simp only [AlertLevel.due?_eq_warning_iff, EndpointResult.health_finding,
        Health.ofFailure_eq_ok_iff, Bool.not_eq_false']
      refine exists_congr fun r => and_congr_right fun _ => and_congr_right fun _ => ?_
      refine and_iff_right_of_imp fun hlong => ?_
      exact Health.getLast?_eq_of_runOf_pos (Nat.lt_of_lt_of_le (by decide) hlong)
  · have hkinds : kinds = (config.endpoints.checks.map (·.name)).map endpointKey := by
      rw [List.map_map]
      rfl
    rw [hkinds]
    exact List.Nodup.map (fun _ _ => endpointKey_inj.1) hnodup
  · obtain ⟨hchecks, hnames⟩ := hprobes _ List.mem_cons_self
    have hkinds := Cycle.map_key_results_sublist hnames
    rw [hchecks] at hkinds
    rw [← hpushed]
    exact (m.book.map_kind_observeAll_sublist _).trans hkinds

/-- Two failed probes, one that could not be made, and a third failed one. -/
theorem endpointCycle_queues_third_failure :
    let api : EndpointCheck := .initial "api" "http://api"
    let config : MonitorConfig :=
      { MonitorConfig.initial with endpoints := { EndpointChecks.initial with checks := [api] } }
    let failed : EndpointResult := ⟨"api", "http://api", some 500, 5, false, none, ⟨0, 0⟩⟩
    let down : List (EndpointCheck × Except Fault EndpointResult) := [(api, .ok failed)]
    let lost : List (EndpointCheck × Except Fault EndpointResult) :=
      [(api, .error (.probe "no route"))]
    let earlier : List Cycle := [.endpoints down, .endpoints down, .endpoints lost]
    config.validate = .ok () ∧
      (∀ k ∈ .endpoints down :: earlier, k.ProbesFor config.endpoints.checks) ∧
      ∃ e ∈ (((new config [] ⟨0, 0⟩).play (earlier.map .cycle)).1.endpointCycle down).2.queued,
        e.kind = endpointKey api.name ∧ e.level = .critical := by
  intro api config failed down lost earlier
  have hvalid : config.validate = .ok () := by decide +kernel
  have hdown : (Cycle.endpoints down).ProbesFor config.endpoints.checks := by
    refine ⟨rfl, ?_⟩
    intro o ho r hr
    rw [List.mem_singleton.1 ho] at hr ⊢
    rw [← Except.ok.inj hr]
    rfl
  have hlost : (Cycle.endpoints lost).ProbesFor config.endpoints.checks := by
    refine ⟨rfl, ?_⟩
    intro o ho r hr
    rw [List.mem_singleton.1 ho] at hr
    cases hr
  have hprobes : ∀ k ∈ .endpoints down :: earlier, k.ProbesFor config.endpoints.checks := by
    intro k hk
    simp only [earlier, List.mem_cons, List.not_mem_nil, or_false] at hk
    rcases hk with rfl | rfl | rfl | rfl
    · exact hdown
    · exact hdown
    · exact hdown
    · exact hlost
  obtain ⟨_, hevents, _⟩ :=
    endpointCycle_queues config [] ⟨0, 0⟩ hvalid earlier down hprobes
  exact ⟨hvalid, hprobes, (hevents api List.mem_cons_self).1.2 ⟨failed, rfl, rfl, by decide⟩⟩

end Monitor

end HostWatch
