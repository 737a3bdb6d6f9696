import HostWatch.Config.Rules
set_option autoImplicit false

/-!
# Configuration: what an accepted one keeps

A check after the other passes when each of them passes (`bind_eq_ok_iff`), so the rules of
a configuration can be read off one by one.  Endpoints are told apart by their names: in an
accepted configuration no two of them share one (`MonitorConfig.nodup_names_of_validate`).  The server
for statistics has no user name without a password (`MonitorConfig.exists_password_of_validate`).
-/

namespace HostWatch

/-- Whether checks pass can be computed. -/
instance (result : Except Fault Unit) : Decidable (result = .ok ()) :=
  match result with
  | .ok () => .isTrue rfl
  | .error _ => .isFalse nofun

theorem bind_eq_ok_iff {first : Except Fault Unit} {next : Unit → Except Fault Unit} :
    (first >>= next) = .ok () ↔ first = .ok () ∧ next () = .ok () := by
  cases first with
  | error fault =>
    constructor
    · intro h
      cases h
    · rintro ⟨h, _⟩
      cases h
  | ok _ => exact (and_iff_right rfl).symm

namespace EndpointCheck

/-- **Accepted checks** keep their own rules, and each has a name that none before it has;
`seen` are the names before all of them. -/
theorem validateAll_eq_ok_iff {seen : List String} {checks : List EndpointCheck} :
    validateAll seen checks = .ok () ↔
      (∀ c ∈ checks, c.validate = .ok ()) ∧ (∀ c ∈ checks, c.name ∉ seen) ∧
        (checks.map (·.name)).Nodup := by
  induction checks generalizing seen with
  | nil => simp [validateAll]
  | cons c cs ih =>
    have hnew : (!seen.contains c.name) = true ↔ c.name ∉ seen := by simp
    have hlater : (∀ c' ∈ cs, c'.name ∉ c.name :: seen) ↔
        c.name ∉ cs.map (·.name) ∧ ∀ c' ∈ cs, c'.name ∉ seen := by
      simp only [List.mem_cons, not_or, List.mem_map, not_exists, not_and, ← forall_and]
    rw [validateAll, bind_eq_ok_iff, bind_eq_ok_iff, require_eq_ok_iff, ih, hnew, hlater,
      List.forall_mem_cons, List.forall_mem_cons, List.map_cons, List.nodup_cons]
    constructor
    · rintro ⟨hfirst, hname, hrest, ⟨hother, hnames⟩, hnodup⟩
      exact ⟨⟨hfirst, hrest⟩, ⟨hname, hnames⟩, hother, hnodup⟩
    · rintro ⟨⟨hfirst, hrest⟩, ⟨hname, hnames⟩, hother, hnodup⟩
      exact ⟨hfirst, hname, hrest, ⟨hother, hnames⟩, hnodup⟩

end EndpointCheck

namespace MonitorConfig

/-- **Endpoint names are unique** in an accepted configuration. -/
theorem nodup_names_of_validate {c : MonitorConfig} (h : c.validate = .ok ()) :
    (c.endpoints.checks.map (·.name)).Nodup := by
  simp only [validate, bind_eq_ok_iff] at h
  obtain ⟨_, _, _, _, _, _, _, hchecks, _⟩ := h
  exact (EndpointCheck.validateAll_eq_ok_iff.1 hchecks).2.2

/-- **A user name of the server has a password** in an accepted configuration. -/
theorem exists_password_of_validate {c : MonitorConfig} (h : c.validate = .ok ())
    {server : StatsServerConfig} (hserver : c.server = some server) {name : String}
    (hname : server.username = some name) :
    ∃ password, server.password = some password ∧ password ≠ "" := by
  simp only [validate, bind_eq_ok_iff] at h
  obtain ⟨_, _, _, _, _, _, _, _, _, hsection⟩ := h
  rw [hserver] at hsection
  have hrule := require_eq_ok_iff.1 hsection
  rw [hname] at hrule
  cases hpassword : server.password with
  | none =>
    rw [hpassword] at hrule
    cases hrule
  | some password =>
    rw [hpassword] at hrule
    refine ⟨password, rfl, ?_⟩
    rintro rfl
    cases hrule

end MonitorConfig

end HostWatch
