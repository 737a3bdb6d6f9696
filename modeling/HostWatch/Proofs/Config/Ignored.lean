import Mathlib.Data.List.Nodup
import HostWatch.Proofs.Config.Locality
set_option autoImplicit false

/-!
# Configuration: variables that are ignored

A variable that is set to a value that cannot be read leaves a line in the log, which says that
it is ignored (`Variable.complaint?`).  Its value has no effect then.  That it is set has one all
the same if it belongs to a section that comes into being when one of its variables is set, since
such a section only looks whether there is a value: the container checks, the mail section and the
server.  So an environment with an ignored variable overrides a configuration like the environment
without it and switches on the section of the variable (`MonitorConfig.overriddenBy_of_ignored`).
It makes no difference exactly when that section is there anyway
(`MonitorConfig.overriddenBy_eq_without_iff`).
-/

namespace HostWatch

/-- The environment in which a variable is not there. -/
def Environment.without (env : Environment) (name : String) : Environment := fun n =>
  if n = variableFront ++ name then none else env n

namespace Variable

/-- The variables whose values have to be read. -/
def all : List (Σ α : Type, Variable α) :=
  [⟨_, resourceInterval⟩, ⟨_, cpuThreshold⟩, ⟨_, memoryThreshold⟩, ⟨_, diskThreshold⟩,
    ⟨_, probeTimeout⟩, ⟨_, probeStatus⟩, ⟨_, containerInterval⟩, ⟨_, cooldown⟩, ⟨_, smtpPort⟩,
    ⟨_, smtpTls⟩, ⟨_, serverPort⟩]

/-- The names of the variables whose values have to be read. -/
def readNames : List String := all.map fun v => v.2.name

theorem readNames_nodup : readNames.Nodup := by decide

theorem value?_of_none {α : Type} {v : Variable α} {env : Environment}
    (h : env.get? v.name = none) : v.value? env = none := by
  rw [value?, h]
  rfl

end Variable

namespace Environment

variable {env : Environment} {name : String}

theorem get?_without (env : Environment) (name n : String) :
    (env.without name).get? n = if n = name then none else env.get? n := by
  have hfront : variableFront ++ n = variableFront ++ name ↔ n = name := by
    rw [← String.toList_inj, String.toList_append, String.toList_append, List.append_cancel_left_eq,
      String.toList_inj]
  simp only [get?, without, hfront]
  split <;> rfl

/-- Two environments say the same where more counts than whether something is set. -/
structure Alike (env env' : Environment) : Prop where
  value?_eq : ∀ v ∈ Variable.all, v.2.value? env = v.2.value? env'
  get?_eq : ∀ n ∉ Variable.readNames, env.get? n = env'.get? n

/-- **An ignored variable** has no value, so only whether it is set can make a difference. -/
theorem alike_without {v : Σ α : Type, Variable α} (hv : v ∈ Variable.all)
    (hignored : (v.2.complaint? env).isSome = true) : env.Alike (env.without v.2.name) where
  value?_eq := by
    intro w hw
    by_cases hname : w.2.name = v.2.name
    · obtain rfl := List.inj_on_of_nodup_map Variable.readNames_nodup hw hv hname
      rw [((w.2.complaint?_isSome_iff env).1 hignored).2, Variable.value?, get?_without,
        if_pos rfl]
      rfl
    · rw [Variable.value?, Variable.value?, get?_without, if_neg hname]
  get?_eq := by
    intro n hn
    rw [get?_without, if_neg]
    rintro rfl
    exact hn (List.mem_map_of_mem hv)

/-- **A variable that is set** counts among those that it is named with. -/
theorem anySet_eq_without (h : (env.get? name).isSome = true) (names : List String) :
    env.anySet names = ((env.without name).anySet names || names.contains name) := by
  induction names with
  | nil => rfl
  | cons n ns ih =>
    have hcons : ∀ env' : Environment, env'.anySet (n :: ns) =
        ((env'.get? n).isSome || env'.anySet ns) := fun _ => rfl
    rw [hcons, hcons, ih, get?_without, List.contains_cons]
    by_cases hname : n = name
    · subst hname
      simp [h]
    · have hne : (name == n) = false := beq_false_of_ne (Ne.symm hname)
      rw [if_neg hname, hne, Bool.false_or, Bool.or_assoc]

theorem get?_eq_none_of_anySet {names : List String} (h : env.anySet names = false) {n : String}
    (hn : n ∈ names) : env.get? n = none := by
  rw [anySet, List.any_eq_false] at h
  simpa using h n hn

end Environment

namespace Environment.Alike

variable {env env' : Environment}

/-- Alike environments agree on variables that need not be read. -/
theorem agreeOn (h : env.Alike env') {names : List String}
    (hnames : ∀ n ∈ names, n ∉ Variable.readNames) : env.AgreeOn env' names :=
  fun n hn => h.get?_eq n (hnames n hn)

theorem list?_eq (h : env.Alike env') {n : String} (hn : n ∉ Variable.readNames) :
    env.list? n = env'.list? n := by
  have hagree : env.AgreeOn env' [n] := h.agreeOn (List.forall_mem_singleton.2 hn)
  exact hagree.list?_eq List.mem_cons_self

end Environment.Alike

/-! ## Sections that do not look whether something is set -/

section

variable {env env' : Environment}

theorem ResourceChecks.overriddenBy_of_alike (h : env.Alike env') (c : ResourceChecks) :
    c.overriddenBy env = c.overriddenBy env' := by
  have hinterval := h.value?_eq ⟨_, .resourceInterval⟩ (by simp [Variable.all])
  have hcpu := h.value?_eq ⟨_, .cpuThreshold⟩ (by simp [Variable.all])
  have hmemory := h.value?_eq ⟨_, .memoryThreshold⟩ (by simp [Variable.all])
  have hdisk := h.value?_eq ⟨_, .diskThreshold⟩ (by simp [Variable.all])
  have hpaths := h.list?_eq (n := "DISK_PATHS") (by decide)
  rw [overriddenBy, overriddenBy, hinterval, hcpu, hmemory, hdisk, hpaths]

theorem EndpointChecks.overriddenBy_of_alike (h : env.Alike env') (c : EndpointChecks) :
    c.overriddenBy env = c.overriddenBy env' := by
  have hurl := h.get?_eq "CHECK_HTTP_URL" (by decide)
  have hmethod := h.get?_eq "CHECK_HTTP_METHOD" (by decide)
  have htimeout := h.value?_eq ⟨_, .probeTimeout⟩ (by simp [Variable.all])
  have hstatus := h.value?_eq ⟨_, .probeStatus⟩ (by simp [Variable.all])
  rw [overriddenBy, overriddenBy, EndpointCheck.ofEnvironment?, EndpointCheck.ofEnvironment?, hurl,
    hmethod, htimeout, hstatus]

end

/-! ## Sections that come into being -/

/-- A section that has to be there, if it is wanted. -/
def wanted {α : Type} (isWanted : Bool) (initial : α) (section? : Option α) : Option α :=
  if isWanted then some (section?.getD initial) else section?

/-- A section with one more variable set is the section without it, which has to be there if the
variable is one of its own.  The values `laid` over it are the same, and none without any of its
variables. -/
theorem wanted_of_set {α : Type} {isSet isSet' isOwn : Bool} {laid : α → α}
    (hset : isSet = (isSet' || isOwn)) (hnone : isSet' = false → laid = id) (initial : α)
    (section? : Option α) :
    (if isSet then some (laid (section?.getD initial)) else section?) =
      wanted isOwn initial
        (if isSet' then some (laid (section?.getD initial)) else section?) := by
  subst hset
  cases isSet' with
  | true => cases isOwn <;> rfl
  | false =>
    rw [hnone rfl]
    cases isOwn <;> rfl

theorem wanted_eq_self_iff {α : Type} {isWanted : Bool} {initial : α} {section? : Option α} :
    wanted isWanted initial section? = section? ↔
      (isWanted = true → section?.isSome = true) := by
  cases isWanted <;> cases section? <;> simp [wanted]

/-- The values of the mail variables, laid over a mail section. -/
def EmailConfig.laidUnder (env : Environment) (c : EmailConfig) : EmailConfig where
  host := overlay (env.get? "SMTP_HOST") c.host
  port := overlay (Variable.smtpPort.value? env) c.port
  username := overlay (env.get? "SMTP_USERNAME") c.username
  password := overlay (env.get? "SMTP_PASSWORD") c.password
  sender := overlay (env.get? "SMTP_FROM") c.sender
  recipients := overlay (env.get? "SMTP_TO") c.recipients
  useTls := overlay (Variable.smtpTls.value? env) c.useTls

/-- The values of the server variables, laid over a server section. -/
def StatsServerConfig.laidUnder (env : Environment) (c : StatsServerConfig) : StatsServerConfig :=
  { c with
    port := overlay (Variable.serverPort.value? env) c.port
    username := (env.get? "HTTP_SERVER_USERNAME").or c.username
    password := (env.get? "HTTP_SERVER_PASSWORD").or c.password }

section

variable {env env' : Environment} {name : String}

theorem EmailConfig.laidUnder_of_alike (h : env.Alike env') :
    EmailConfig.laidUnder env = EmailConfig.laidUnder env' := by
  have hhost := h.get?_eq "SMTP_HOST" (by decide)
  have huser := h.get?_eq "SMTP_USERNAME" (by decide)
  have hpassword := h.get?_eq "SMTP_PASSWORD" (by decide)
  have hfrom := h.get?_eq "SMTP_FROM" (by decide)
  have hto := h.get?_eq "SMTP_TO" (by decide)
  have hport := h.value?_eq ⟨_, .smtpPort⟩ (by simp [Variable.all])
  have htls := h.value?_eq ⟨_, .smtpTls⟩ (by simp [Variable.all])
  funext c
  rw [laidUnder, laidUnder, hhost, huser, hpassword, hfrom, hto, hport, htls]

theorem EmailConfig.laidUnder_of_none (h : env.anySet smtpVariables = false) :
    EmailConfig.laidUnder env = id := by
  have hnone := fun n hn => Environment.get?_eq_none_of_anySet (n := n) h hn
  have hport := Variable.value?_of_none (v := .smtpPort) (hnone _ (by decide))
  have htls := Variable.value?_of_none (v := .smtpTls) (hnone _ (by decide))
  funext c
  rw [laidUnder, hnone "SMTP_HOST" (by decide), hnone "SMTP_USERNAME" (by decide),
    hnone "SMTP_PASSWORD" (by decide), hnone "SMTP_FROM" (by decide), hnone "SMTP_TO" (by decide),
    hport, htls]
  rfl

theorem StatsServerConfig.laidUnder_of_alike (h : env.Alike env') :
    StatsServerConfig.laidUnder env = StatsServerConfig.laidUnder env' := by
  have huser := h.get?_eq "HTTP_SERVER_USERNAME" (by decide)
  have hpassword := h.get?_eq "HTTP_SERVER_PASSWORD" (by decide)
  have hport := h.value?_eq ⟨_, .serverPort⟩ (by simp [Variable.all])
  funext c
  rw [laidUnder, laidUnder, huser, hpassword, hport]

theorem StatsServerConfig.laidUnder_of_none (h : env.anySet serverVariables = false) :
    StatsServerConfig.laidUnder env = id := by
  have hnone := fun n hn => Environment.get?_eq_none_of_anySet (n := n) h hn
  have hport := Variable.value?_of_none (v := .serverPort) (hnone _ (by decide))
  funext c
  rw [laidUnder, hnone "HTTP_SERVER_USERNAME" (by decide),
    hnone "HTTP_SERVER_PASSWORD" (by decide), hport]
  rfl

theorem EmailConfig.overriddenBy_eq_wanted (hset : (env.get? name).isSome = true)
    (halike : env.Alike (env.without name)) (s : Option EmailConfig) :
    overriddenBy s env =
      wanted (smtpVariables.contains name) .initial (overriddenBy s (env.without name)) := by
  have hlaid : overriddenBy s env =
      if env.anySet smtpVariables then some (laidUnder env (s.getD .initial)) else s := rfl
  rw [hlaid, laidUnder_of_alike halike]
  exact wanted_of_set (env.anySet_eq_without hset _) laidUnder_of_none .initial s

theorem StatsServerConfig.overriddenBy_eq_wanted (hset : (env.get? name).isSome = true)
    (halike : env.Alike (env.without name)) (s : Option StatsServerConfig) :
    overriddenBy s env =
      wanted (serverVariables.contains name) .initial (overriddenBy s (env.without name)) := by
  have hlaid : overriddenBy s env =
      if env.anySet serverVariables then some (laidUnder env (s.getD .initial)) else s := rfl
  rw [hlaid, laidUnder_of_alike halike]
  exact wanted_of_set (env.anySet_eq_without hset _) laidUnder_of_none .initial s

end

/-! ## What an ignored variable does -/

namespace MonitorConfig

/-- The configuration with the section of a variable switched on, which is what it takes to set
the variable, whatever its value. -/
def switchedOnBy (c : MonitorConfig) (name : String) : MonitorConfig :=
  { c with
    containers := { c.containers with
      enabled := c.containers.enabled || containerVariables.contains name }
    alerting := { c.alerting with
      enabled := c.alerting.enabled || smtpVariables.contains name
      email := wanted (smtpVariables.contains name) .initial c.alerting.email }
    server := wanted (serverVariables.contains name) .initial c.server }

/-- The section of a variable is switched on already. -/
structure HasSwitchedOn (c : MonitorConfig) (name : String) : Prop where
  containers : name ∈ containerVariables → c.containers.enabled = true
  alerting : name ∈ smtpVariables → c.alerting.enabled = true ∧ c.alerting.email.isSome = true
  server : name ∈ serverVariables → c.server.isSome = true

theorem switchedOnBy_eq_self_iff {c : MonitorConfig} {name : String} :
    c.switchedOnBy name = c ↔ c.HasSwitchedOn name := by
  have hbool : ∀ {old isOwn : Bool}, (old || isOwn) = old ↔ (isOwn = true → old = true) := by
    decide
  have hmem : ∀ {names : List String}, names.contains name = true ↔ name ∈ names :=
    List.contains_iff_mem
  constructor
  · intro h
    have hwatch := congrArg (fun d => d.containers.enabled) h
    have halerting := congrArg (fun d => d.alerting.enabled) h
    have hemail := congrArg (fun d => d.alerting.email) h
    have hserver := congrArg (fun d => d.server) h
    simp only [switchedOnBy, hbool, wanted_eq_self_iff, hmem] at hwatch halerting hemail hserver
    exact ⟨hwatch, fun hname => ⟨halerting hname, hemail hname⟩, hserver⟩
  · rintro ⟨hwatch, halerting, hserver⟩
    rw [switchedOnBy, hbool.2 fun h => hwatch (hmem.1 h),
      hbool.2 fun h => (halerting (hmem.1 h)).1,
      wanted_eq_self_iff.2 fun h => (halerting (hmem.1 h)).2,
      wanted_eq_self_iff.2 fun h => hserver (hmem.1 h)]

end MonitorConfig

section

variable {env : Environment} {name : String}

theorem ContainerChecks.overriddenBy_eq_without (hset : (env.get? name).isSome = true)
    (halike : env.Alike (env.without name)) (c : ContainerChecks) :
    c.overriddenBy env =
      { c.overriddenBy (env.without name) with
        enabled := (c.overriddenBy (env.without name)).enabled ||
          containerVariables.contains name } := by
  have hinterval := halike.value?_eq ⟨_, .containerInterval⟩ (by simp [Variable.all])
  have hnames := halike.list?_eq (n := "CHECK_DOCKER_CONTAINERS") (by decide)
  rw [overriddenBy, hinterval, hnames, env.anySet_eq_without hset, ← Bool.or_assoc]
  rfl

theorem AlertingConfig.overriddenBy_eq_without (hset : (env.get? name).isSome = true)
    (halike : env.Alike (env.without name)) (hname : name ∈ Variable.readNames)
    (c : AlertingConfig) :
    c.overriddenBy env =
      { c.overriddenBy (env.without name) with
        enabled := (c.overriddenBy (env.without name)).enabled || smtpVariables.contains name
        email := wanted (smtpVariables.contains name) .initial
          (c.overriddenBy (env.without name)).email } := by
  have hlevels := halike.list?_eq (n := "ALERTING_LEVELS") (by decide)
  have hcooldown := halike.value?_eq ⟨_, .cooldown⟩ (by simp [Variable.all])
  -- No variable of the other two channels has to be read.
  have hchannels : ∀ n ∈ Variable.readNames,
      (telegramVariables ++ mailgunVariables ++ smtpVariables).contains n =
        smtpVariables.contains n := by
    decide
  rw [overriddenBy, hlevels, hcooldown, env.anySet_eq_without hset, hchannels _ hname,
    ← Bool.or_assoc, EmailConfig.overriddenBy_eq_wanted hset halike,
    MailgunConfig.overriddenBy_of_agreeOn (halike.agreeOn (by decide)),
    TelegramConfig.overriddenBy_of_agreeOn (halike.agreeOn (by decide))]
  rfl

end

namespace MonitorConfig

variable {v : Σ α : Type, Variable α} {env : Environment}

/-- **An ignored variable** switches its section on and does nothing else. -/
theorem overriddenBy_of_ignored (hv : v ∈ Variable.all)
    (hignored : (v.2.complaint? env).isSome = true) (c : MonitorConfig) :
    c.overriddenBy env = (c.overriddenBy (env.without v.2.name)).switchedOnBy v.2.name := by
  have halike := Environment.alike_without hv hignored
  have hset := ((v.2.complaint?_isSome_iff env).1 hignored).1
  have happ := halike.get?_eq "APP_NAME" (by decide)
  rw [overriddenBy, happ, ResourceChecks.overriddenBy_of_alike halike,
    EndpointChecks.overriddenBy_of_alike halike,
    ContainerChecks.overriddenBy_eq_without hset halike,
    AlertingConfig.overriddenBy_eq_without hset halike (List.mem_map_of_mem hv),
    StatsServerConfig.overriddenBy_eq_wanted hset halike]
  rfl

/-- **An ignored variable makes no difference** exactly when its section is switched on without
it. -/
theorem overriddenBy_eq_without_iff (hv : v ∈ Variable.all)
    (hignored : (v.2.complaint? env).isSome = true) (c : MonitorConfig) :
    c.overriddenBy env = c.overriddenBy (env.without v.2.name) ↔
      (c.overriddenBy (env.without v.2.name)).HasSwitchedOn v.2.name := by
  rw [overriddenBy_of_ignored hv hignored]
  exact switchedOnBy_eq_self_iff

/-- A threshold belongs to no section that is switched on, so a word for it does nothing. -/
theorem overriddenBy_word_for_threshold :
    (Variable.cpuThreshold.complaint?
        (Environment.ofEntries [("MONIC_CPU_THRESHOLD", "high")])).isSome = true ∧
      initial.overriddenBy (Environment.ofEntries [("MONIC_CPU_THRESHOLD", "high")]) =
        initial.overriddenBy
          ((Environment.ofEntries [("MONIC_CPU_THRESHOLD", "high")]).without "CPU_THRESHOLD") := by
  have hignored : (Variable.cpuThreshold.complaint?
      (Environment.ofEntries [("MONIC_CPU_THRESHOLD", "high")])).isSome = true := by
    decide +kernel
  refine ⟨hignored, (overriddenBy_eq_without_iff (v := ⟨_, .cpuThreshold⟩)
    (by simp [Variable.all]) hignored _).2 ⟨?_, ?_, ?_⟩⟩ <;> decide

/-- A word for the port of the server is ignored, and yet it brings the server about. -/
theorem overriddenBy_word_for_port :
    (Variable.serverPort.complaint?
        (Environment.ofEntries [("MONIC_HTTP_SERVER_PORT", "http")])).isSome = true ∧
      initial.overriddenBy (Environment.ofEntries [("MONIC_HTTP_SERVER_PORT", "http")]) ≠
        initial.overriddenBy
          ((Environment.ofEntries [("MONIC_HTTP_SERVER_PORT", "http")]).without
            "HTTP_SERVER_PORT") := by
  refine ⟨by decide +kernel, fun hsame => ?_⟩
  have hserver := congrArg (fun c => c.server.isSome) hsame
  revert hserver
  decide +kernel

end MonitorConfig

end HostWatch
