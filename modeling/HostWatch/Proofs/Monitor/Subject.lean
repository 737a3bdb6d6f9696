import HostWatch.Proofs.Monitor.Conservation
set_option autoImplicit false

/-!
# Monitor: what is watched, and under which key

The domains share one book, and what keeps them apart in it is the spelling of the keys
alone.  A key can be read back (`Subject.ofKey?_key`), whatever the path or the name in it
is.  So different subjects have different keys (`Subject.key_injective`), and every key
belongs to at most one domain, which is the one whose cycles use it
(`Cycle.ofKey?_of_mem_findings`).
-/

namespace HostWatch

/-- Something that is watched. -/
inductive Subject where
  | cpu
  | memory
  | disk (path : String)
  | endpoint (name : String)
  | container (name : String)
  deriving DecidableEq, Repr, Inhabited

namespace Subject

/-- The key of a subject in the book. -/
def key : Subject → String
  | cpu => "cpu"
  | memory => "memory"
  | disk path => diskKey path
  | endpoint name => endpointKey name
  | container name => containerKey name

/-- The domain that watches a subject. -/
def domain : Subject → Domain
  | cpu | memory | disk _ => .resources
  | endpoint _ => .endpoints
  | container _ => .containers

/-- The subject of a key. -/
def ofKey? (key : String) : Option Subject :=
  if key = "cpu" then some cpu
  else if key = "memory" then some memory
  else
    match Text.afterFront? "disk_" key with
    | some path => some (disk path)
    | none =>
      match Text.afterFront? "http_" key with
      | some name => some (endpoint name)
      | none => (Text.afterFront? "docker_" key).map container

/-- The words that the keys start with differ within the shortest of them, so that no path
and no name can make up for it. -/
theorem ofKey?_key (x : Subject) : ofKey? x.key = some x := by
  cases x with
  | cpu => rfl
  | memory => rfl
  | disk path =>
    have hcpu : diskKey path ≠ "cpu" := by simp [diskKey, ← String.toList_inj]
    have hmemory : diskKey path ≠ "memory" := by simp [diskKey, ← String.toList_inj]
    rw [key, ofKey?, if_neg hcpu, if_neg hmemory, diskKey, Text.afterFront?_append]
  | endpoint name =>
    have hcpu : endpointKey name ≠ "cpu" := by simp [endpointKey, ← String.toList_inj]
    have hmemory : endpointKey name ≠ "memory" := by simp [endpointKey, ← String.toList_inj]
    have hdisk : Text.afterFront? "disk_" (endpointKey name) = none := by
      simp [endpointKey, Text.afterFront?, Text.dropFront?]
    rw [key, ofKey?, if_neg hcpu, if_neg hmemory, hdisk, endpointKey, Text.afterFront?_append]
  | container name =>
    have hcpu : containerKey name ≠ "cpu" := by simp [containerKey, ← String.toList_inj]
    have hmemory : containerKey name ≠ "memory" := by simp [containerKey, ← String.toList_inj]
    have hdisk : Text.afterFront? "disk_" (containerKey name) = none := by
      simp [containerKey, Text.afterFront?, Text.dropFront?]
    have hhttp : Text.afterFront? "http_" (containerKey name) = none := by
      simp [containerKey, Text.afterFront?, Text.dropFront?]
    rw [key, ofKey?, if_neg hcpu, if_neg hmemory, hdisk, hhttp, containerKey, Text.afterFront?_append]
    rfl

/-- **Different subjects have different keys**, also across the domains. -/
theorem key_injective {x y : Subject} (h : x.key = y.key) : x = y := by
  have hx := ofKey?_key x
  rw [h, ofKey?_key] at hx
  exact (Option.some.inj hx).symm

end Subject

theorem diskKey_inj {path path' : String} : diskKey path = diskKey path' ↔ path = path' := by
  constructor
  · intro h
    have hsame : Subject.disk path = Subject.disk path' := Subject.key_injective h
    exact Subject.disk.inj hsame
  · exact congrArg diskKey

theorem endpointKey_inj {name name' : String} :
    endpointKey name = endpointKey name' ↔ name = name' := by
  constructor
  · intro h
    have hsame : Subject.endpoint name = Subject.endpoint name' := Subject.key_injective h
    exact Subject.endpoint.inj hsame
  · exact congrArg endpointKey

theorem containerKey_inj {name name' : String} :
    containerKey name = containerKey name' ↔ name = name' := by
  constructor
  · intro h
    have hsame : Subject.container name = Subject.container name' := Subject.key_injective h
    exact Subject.container.inj hsame
  · exact congrArg containerKey

/-- The domain that a key belongs to. -/
def Domain.ofKey? (key : String) : Option Domain := (Subject.ofKey? key).map Subject.domain

theorem Domain.ofKey?_key (x : Subject) : Domain.ofKey? x.key = some x.domain := by
  rw [Domain.ofKey?, Subject.ofKey?_key, Option.map_some]

theorem Domain.ofKey?_ne_dispatch (key : String) : Domain.ofKey? key ≠ some .dispatch := by
  intro h
  obtain ⟨x, _, hx⟩ := Option.map_eq_some_iff.1 h
  cases x <;> cases hx

/-- The events about what a domain watches, among others. -/
def AlertEvent.ofDomain (d : Domain) (events : List AlertEvent) : List AlertEvent :=
  events.filter fun e => Domain.ofKey? e.kind = some d

/-! ## The keys of the findings -/

theorem Gauge.key_of_finding?_eq {g : Gauge} {time : Time.Instant} {f : Finding}
    (h : g.finding? time = some f) : f.key = g.key := by
  unfold finding? at h
  split at h
  · rw [← Option.some.inj h]
  · cases h

theorem ResourceSample.exists_subject_of_mem_findings {s : ResourceSample}
    {checks : ResourceChecks} {f : Finding} (h : f ∈ s.findings checks) :
    ∃ x : Subject, x.domain = .resources ∧ f.key = x.key := by
  obtain ⟨g, hg, hf⟩ := List.mem_filterMap.1 h
  rw [Gauge.key_of_finding?_eq hf]
  rcases List.mem_cons.1 hg with rfl | hg
  · exact ⟨.cpu, rfl, rfl⟩
  rcases List.mem_cons.1 hg with rfl | hg
  · exact ⟨.memory, rfl, rfl⟩
  obtain ⟨disk, _, rfl⟩ := List.mem_map.1 hg
  exact ⟨.disk disk.path, rfl, rfl⟩

/-- **The findings of a cycle** have keys of its own domain. -/
theorem Cycle.ofKey?_of_mem_findings {c : Cycle} {checks : ResourceChecks} {f : Finding}
    (h : f ∈ c.findings checks) : Domain.ofKey? f.key = some c.domain := by
  have hsubject : ∃ x : Subject, x.domain = c.domain ∧ f.key = x.key := by
    cases c with
    | resources outcome =>
      cases outcome with
      | error _ => cases h
      | ok s => exact ResourceSample.exists_subject_of_mem_findings h
    | endpoints outcomes =>
      obtain ⟨r, _, rfl⟩ := List.mem_map.1 h
      exact ⟨.endpoint r.name, rfl, rfl⟩
    | containers outcome =>
      cases outcome with
      | error _ => cases h
      | ok samples =>
        obtain ⟨s, _, rfl⟩ := List.mem_map.1 h
        exact ⟨.container s.name, rfl, rfl⟩
    | noRuntime => cases h
    | dispatch now replies => cases h
    | broken d => cases h
  obtain ⟨x, hdomain, hkey⟩ := hsubject
  rw [hkey, Domain.ofKey?_key, hdomain]

end HostWatch
