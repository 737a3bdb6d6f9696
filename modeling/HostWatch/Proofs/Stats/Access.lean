import HostWatch.Config.Overrides
import HostWatch.Proofs.Config.Accepted
import HostWatch.Stats.Server
set_option autoImplicit false

/-!
# Stats: who is told what

The guard looks at how a path begins and the router at the whole path, so a request can pass the
guard without credentials and still go anywhere that begins like `/health`.  Nothing there shows
the monitor: what somebody without the credentials is answered can be worked out from the request
alone (`toStranger`), and two servers that are asked by strangers cannot be told apart
(`respond_conceals`).

Whether a server has credentials is a matter of its user name.  An accepted configuration with a
user name has a password for it, and its server is closed; with a password alone there are no
credentials, and the server is open to everyone (`refuses_anonymous_iff`).
-/

namespace HostWatch.Stats

open HostWatch.Text
open HostWatch.Time (Instant)

/-! ## Strangers -/

/-- The credentials that a request gives, if it gives any that can be read. -/
def Request.given? (r : Request) : Option Credentials :=
  (r.header? "authorization").bind Credentials.ofAuthorization?

/-- What a request is answered that does not give the credentials of the server. -/
def toStranger (r : Request) : Response :=
  Response.forMethod r.method <|
    if isOpen r.path then
      if r.path = "/health" then
        if r.method == "GET" || r.method == "HEAD" then healthy else bare 405
      else bare 404
    else unauthorized

/-- A server with credentials answers a request if its path is open or the request gives
them. -/
theorem isAuthorized_some_iff {c : Credentials} {r : Request} :
    isAuthorized (some c) r = true ↔ isOpen r.path = true ∨ r.given? = some c := by
  simp [isAuthorized, Request.given?]

/-- A path that is open does not lead to the monitor. -/
theorem route_of_isOpen {r : Request} (h : isOpen r.path = true) (s : ServerState)
    (now : Instant) :
    route s r now =
      if r.path = "/health" then
        if r.method == "GET" || r.method == "HEAD" then healthy else bare 405
      else bare 404 := by
  have hstats : r.path ≠ "/stats" := by
    intro hpath
    rw [hpath] at h
    revert h
    decide
  unfold route
  simp only [if_neg hstats]

/-- **Strangers** are answered from their request alone. -/
theorem respond_eq_toStranger {s : ServerState} {c : Credentials} {r : Request}
    (hcredentials : s.credentials = some c) (hgiven : r.given? ≠ some c) (now : Instant) :
    respond s r now = toStranger r := by
  unfold respond toStranger
  rw [hcredentials]
  cases hopen : isOpen r.path with
  | true =>
    have hauthorized : isAuthorized (some c) r = true := isAuthorized_some_iff.2 (.inl hopen)
    rw [if_pos hauthorized, if_pos rfl, route_of_isOpen hopen]
  | false =>
    have hrefused : ¬ isAuthorized (some c) r = true := by
      rw [isAuthorized_some_iff, hopen]
      rintro (h | h)
      · cases h
      · exact hgiven h
    rw [if_neg hrefused, if_neg (by decide)]

@[simp] theorem Response.status_forMethod (method : String) (r : Response) :
    (r.forMethod method).status = r.status := by
  unfold forMethod
  split <;> rfl

theorem Response.forMethod_body_ne_json {r : Response} (h : ∀ v, r.body ≠ .json v)
    (method : String) (v : Json) : (r.forMethod method).body ≠ .json v := by
  unfold forMethod
  split
  · nofun
  · exact h v

theorem toStranger_status_of_closed {r : Request} (h : isOpen r.path = false) :
    (toStranger r).status = 401 := by
  unfold toStranger
  rw [h, Response.status_forMethod]
  rfl

/-- Where a path is open, a stranger learns that the server is there, or nothing. -/
theorem toStranger_of_open {r : Request} (h : isOpen r.path = true) :
    toStranger r = healthy.forMethod r.method ∨ 400 ≤ (toStranger r).status := by
  unfold toStranger
  rw [if_pos h, Response.status_forMethod]
  split
  · split
    · exact .inl rfl
    · exact .inr (by decide)
  · exact .inr (by decide)

theorem toStranger_body_ne_json (r : Request) (v : Json) : (toStranger r).body ≠ .json v := by
  unfold toStranger
  refine Response.forMethod_body_ne_json ?_ r.method v
  intro v
  split
  · split
    · split <;> nofun
    · nofun
  · nofun

/-- **Nothing leaks.**  Take two servers with credentials, whatever their monitors, their hosts
and their credentials are, and any request that gives neither's credentials, at any times.  Both
answer the same: 401 on every path that does not begin with `/health`, and on a path that does,
the answer of `/health` or an error, and in no case a part of what the monitor knows. -/
theorem respond_conceals (s s' : ServerState) (c c' : Credentials) (r : Request)
    (now now' : Instant) (hs : s.credentials = some c) (hs' : s'.credentials = some c')
    (hr : r.given? ≠ some c) (hr' : r.given? ≠ some c') :
    respond s r now = respond s' r now' ∧
      (startsWith r.path "/health" = false → (respond s r now).status = 401) ∧
      (startsWith r.path "/health" = true →
        respond s r now = healthy.forMethod r.method ∨ 400 ≤ (respond s r now).status) ∧
      ∀ v, (respond s r now).body ≠ .json v := by
  rw [respond_eq_toStranger hs hr now, respond_eq_toStranger hs' hr' now']
  exact ⟨rfl, toStranger_status_of_closed, toStranger_of_open, toStranger_body_ne_json r⟩

/-- Somebody with a wrong password asks two servers of which one has an alert pending. -/
theorem respond_conceals_wrong_password :
    let event : AlertEvent := ⟨"cpu", "high", .critical, ⟨0, 0⟩⟩
    let quiet : Monitor := .new .initial [] ⟨0, 0⟩
    let busy : Monitor := { quiet with pending := quiet.pending.pushAll [event] }
    let s : ServerState := ⟨quiet, default, some ⟨"admin", "secret"⟩⟩
    let s' : ServerState := ⟨busy, default, some ⟨"root", "x:y"⟩⟩
    let r : Request := ⟨"GET", "/stats", [("Authorization", "Basic YWRtaW46d3Jvbmc=")]⟩
    r.given? = some ⟨"admin", "wrong"⟩ ∧
      respond s r ⟨0, 0⟩ = respond s' r ⟨5, 0⟩ ∧ (respond s r ⟨0, 0⟩).status = 401 := by
  intro event quiet busy s s' r
  have hgiven : r.given? = some ⟨"admin", "wrong"⟩ := by decide +kernel
  have hclosed : startsWith r.path "/health" = false := by decide
  obtain ⟨hsame, hstatus, _⟩ := respond_conceals s s' ⟨"admin", "secret"⟩ ⟨"root", "x:y"⟩ r
    ⟨0, 0⟩ ⟨5, 0⟩ rfl rfl (by rw [hgiven]; decide) (by rw [hgiven]; decide)
  exact ⟨hgiven, hsame, hstatus hclosed⟩

/-! ## Servers that are closed -/

/-- The request asks for what the monitor knows and says nothing about who asks. -/
structure Request.Anonymous (r : Request) : Prop where
  method_eq : r.method = "GET"
  path_eq : r.path = "/stats"
  no_authorization : ∀ h ∈ r.headers, eqIgnoreCase h.1 "authorization" = false

theorem Request.Anonymous.given?_eq {r : Request} (h : r.Anonymous) : r.given? = none := by
  have hnone : r.headers.find? (fun header => eqIgnoreCase header.1 "authorization") = none := by
    rw [List.find?_eq_none]
    intro header hheader
    rw [h.no_authorization header hheader]
    exact Bool.false_ne_true
  unfold Request.given? Request.header?
  rw [hnone]
  rfl

/-- A server whose section has no user name, or an empty one, has no credentials, whatever its
password is. -/
theorem Credentials.ofConfig?_eq_none {server : StatsServerConfig}
    (h : ¬ ∃ name, server.username = some name ∧ name ≠ "") : ofConfig? server = none := by
  unfold ofConfig?
  split
  · rename_i name password hname _
    by_cases hempty : name = ""
    · rw [hempty]
      rfl
    · exact absurd ⟨name, hname, hempty⟩ h
  · rfl

theorem Credentials.ofConfig?_eq_some {server : StatsServerConfig} {name password : String}
    (hname : server.username = some name) (hpassword : server.password = some password)
    (hne : name ≠ "") : ofConfig? server = some ⟨name, password⟩ := by
  unfold ofConfig?
  rw [hname, hpassword]
  exact if_neg (by rwa [String.isEmpty_iff])

/-- A user name in the environment is the one of the server, whatever the file says. -/
theorem exists_username_overriddenBy {section? : Option StatsServerConfig} {env : Environment}
    {server : StatsServerConfig} (hset : (env.get? "HTTP_SERVER_USERNAME").isSome = true)
    (hserver : StatsServerConfig.overriddenBy section? env = some server) :
    ∃ name, server.username = some name ∧ name ≠ "" := by
  obtain ⟨name, hname⟩ := Option.isSome_iff_exists.1 hset
  have hany : env.anySet serverVariables = true :=
    List.any_eq_true.2 ⟨"HTTP_SERVER_USERNAME", by decide, hset⟩
  unfold StatsServerConfig.overriddenBy at hserver
  rw [if_pos hany] at hserver
  obtain rfl := Option.some.inj hserver
  refine ⟨name, ?_, ?_⟩
  · show (env.get? "HTTP_SERVER_USERNAME").or _ = _
    rw [hname]
    rfl
  · rintro rfl
    have hblank := (Option.filter_eq_some_iff.1 hname).2
    revert hblank
    decide

/-- Without credentials everybody is shown what the monitor knows. -/
theorem Request.Anonymous.respond_eq_view {r : Request} (h : r.Anonymous) {s : ServerState}
    (hnone : s.credentials = none) (now : Instant) :
    respond s r now = ⟨200, some "application/json", none, .json (view s now)⟩ := by
  have hauthorized : isAuthorized s.credentials r = true := by
    rw [hnone]
    exact Bool.or_true _
  unfold respond route
  rw [if_pos hauthorized, h.path_eq, h.method_eq]
  rfl

/-- **A server is closed** if it has a user name, and only then.  In an accepted configuration a
section with a user name has a password for it, and the server answers 401 to everybody who asks
for what the monitor knows without saying who asks; without a user name it does not.  A user name
in the environment is enough, whatever the file says. -/
theorem refuses_anonymous_iff (config : MonitorConfig) (server : StatsServerConfig)
    (haccepted : config.validate = .ok ()) (hserver : config.server = some server) :
    ((∀ (monitor : Monitor) (host : HostInfo) (r : Request) (now : Instant), r.Anonymous →
        (respond (.new monitor host server) r now).status = 401) ↔
      ∃ name, server.username = some name ∧ name ≠ "") ∧
    ∀ (file : MonitorConfig) (env : Environment), config = file.overriddenBy env →
      (env.get? "HTTP_SERVER_USERNAME").isSome = true →
        ∃ name, server.username = some name ∧ name ≠ "" := by
  refine ⟨⟨?_, ?_⟩, ?_⟩
  · intro hcloses
    refine Classical.byContradiction fun hunnamed => ?_
    have hnone : (ServerState.new default default server).credentials = none :=
      Credentials.ofConfig?_eq_none hunnamed
    have hanonymous : Request.Anonymous ⟨"GET", "/stats", []⟩ := ⟨rfl, by decide, nofun⟩
    have hstatus := hcloses default default _ ⟨0, 0⟩ hanonymous
    rw [hanonymous.respond_eq_view hnone] at hstatus
    cases hstatus
  · rintro ⟨name, hname, hne⟩ monitor host r now hanonymous
    obtain ⟨password, hpassword, _⟩ :=
      MonitorConfig.exists_password_of_validate haccepted hserver hname
    have hcredentials : (ServerState.new monitor host server).credentials =
        some ⟨name, password⟩ := Credentials.ofConfig?_eq_some hname hpassword hne
    have hgiven : r.given? ≠ some ⟨name, password⟩ := by
      rw [hanonymous.given?_eq]
      nofun
    have hclosed : isOpen r.path = false := by
      rw [hanonymous.path_eq]
      decide
    rw [respond_eq_toStranger hcredentials hgiven, toStranger_status_of_closed hclosed]
  · rintro file env rfl hset
    exact exists_username_overriddenBy hset hserver

/-- The user name comes from the environment and the password from the file. -/
theorem refuses_anonymous_iff_named_by_environment :
    let unnamed : StatsServerConfig := { StatsServerConfig.initial with password := some "secret" }
    let file : MonitorConfig := { MonitorConfig.initial with server := some unnamed }
    let env : Environment := .ofEntries [("MONIC_HTTP_SERVER_USERNAME", "admin")]
    let server : StatsServerConfig := { unnamed with username := some "admin" }
    let config := file.overriddenBy env
    let r : Request := ⟨"GET", "/stats", [("Accept", "*/*")]⟩
    config.validate = .ok () ∧ config.server = some server ∧ r.Anonymous ∧
      (respond (.new default default server) r ⟨0, 0⟩).status = 401 := by
  intro unnamed file env server config r
  have haccepted : config.validate = .ok () := by decide +kernel
  have hserver : config.server = some server := by decide +kernel
  have hanonymous : r.Anonymous := ⟨rfl, by decide, by decide⟩
  have hset : (env.get? "HTTP_SERVER_USERNAME").isSome = true := by decide +kernel
  obtain ⟨hcloses, hnamed⟩ := refuses_anonymous_iff config server haccepted hserver
  exact ⟨haccepted, hserver, hanonymous, hcloses.2 (hnamed file env rfl hset) _ _ r _ hanonymous⟩

/-- **A password alone** closes nothing: the configuration is accepted, and everybody who asks is
shown what the monitor knows. -/
theorem serves_anonymous_despite_password :
    let server : StatsServerConfig := { StatsServerConfig.initial with password := some "secret" }
    let config : MonitorConfig := { MonitorConfig.initial with server := some server }
    let s : ServerState := .new (.new config [] ⟨0, 0⟩) default server
    let r : Request := ⟨"GET", "/stats", []⟩
    config.validate = .ok () ∧ config.server = some server ∧
      (∃ password, server.password = some password ∧ password ≠ "") ∧ r.Anonymous ∧
      respond s r ⟨0, 0⟩ = ⟨200, some "application/json", none, .json (view s ⟨0, 0⟩)⟩ := by
  intro server config s r
  have hanonymous : r.Anonymous := ⟨rfl, by decide, nofun⟩
  exact ⟨by decide +kernel, rfl, ⟨"secret", rfl, by decide⟩, hanonymous,
    hanonymous.respond_eq_view rfl ⟨0, 0⟩⟩

end HostWatch.Stats
