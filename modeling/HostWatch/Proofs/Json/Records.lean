import HostWatch.Config.Record
import HostWatch.Proofs.Json.RoundTrip
import HostWatch.Proofs.Time.Timestamp
import HostWatch.Sample.Container
set_option autoImplicit false

/-!
# Json: the records of the monitor read back

Samples, probe results, containers and alerts are read back from their JSON as they were.  A
configuration is read back without its secrets, and nothing else of it changes; since the secrets
are not written in the first place, it is written the same again (`records_read_back`).

Two things have no JSON: a float that is not finite is written as `null`, and a timestamp names the
instants that a clock can show.
-/

namespace HostWatch

open HostWatch.Json HostWatch.Json.Record HostWatch.Number
open HostWatch.Time (Instant)

theorem Time.Instant.ofJson?_toJson {t : Instant} (h : t.IsShown) : ofJson? t.toJson = some t := by
  rw [ofJson?, toJson, text?, Option.bind_some, ofTimestamp?_timestamp h]

/-! ## Samples and alerts -/

/-- All percentages of a sample are finite. -/
structure ResourceSample.IsFinite (s : ResourceSample) : Prop where
  cpu : isFinite s.cpuPercent = true
  memory : isFinite s.memory.usedPercent = true
  disks : ∀ d ∈ s.disks, isFinite d.usedPercent = true

theorem MemoryUsage.ofJson?_toJson {m : MemoryUsage} (hfinite : isFinite m.usedPercent = true) :
    ofJson? m.toJson = some m :=
  bind_of_read (a := ⟨false, _⟩) rfl <|
    bind_required rfl (uint64?_ofNat m.totalBytes) <|
    bind_required rfl (uint64?_ofNat m.usedBytes) <|
    bind_required rfl (uint64?_ofNat m.freeBytes) <|
    bind_required rfl (float?_ofFloat hfinite) rfl

theorem DiskUsage.ofJson?_toJson {d : DiskUsage} (hfinite : isFinite d.usedPercent = true) :
    ofJson? d.toJson = some d :=
  bind_of_read (a := ⟨false, _⟩) rfl <|
    bind_required rfl rfl <|
    bind_required rfl (uint64?_ofNat d.totalBytes) <|
    bind_required rfl (uint64?_ofNat d.usedBytes) <|
    bind_required rfl (uint64?_ofNat d.freeBytes) <|
    bind_required rfl (float?_ofFloat hfinite) rfl

theorem ResourceSample.ofJson?_toJson {s : ResourceSample} (htime : s.time.IsShown)
    (hfinite : s.IsFinite) : ofJson? s.toJson = some s :=
  bind_of_read (a := ⟨false, _⟩) rfl <|
    bind_required rfl (Instant.ofJson?_toJson htime) <|
    bind_required rfl (float?_ofFloat hfinite.cpu) <|
    bind_required rfl (MemoryUsage.ofJson?_toJson hfinite.memory) <|
    bind_required rfl
      (list?_map fun d hd => DiskUsage.ofJson?_toJson (hfinite.disks d hd)) rfl

theorem EndpointResult.ofJson?_toJson {e : EndpointResult} (htime : e.time.IsShown) :
    ofJson? e.toJson = some e := by
  have hstatus : nullable uint16? (.ofOption (fun c : UInt16 => .ofNat c.toNat) e.status) =
      some (e.status.map id) :=
    nullable_ofOption (fun _ => nofun) uint16?_ofNat
  rw [Option.map_id] at hstatus
  exact bind_of_read (a := ⟨false, _⟩) rfl <|
    bind_required rfl rfl <|
    bind_required rfl rfl <|
    bind_optional rfl hstatus <|
    bind_required rfl (uint64?_ofNat e.latencyMillis) <|
    bind_required rfl rfl <|
    bind_optional rfl (nullable_ofOption_str e.error) <|
    bind_required rfl (Instant.ofJson?_toJson htime) rfl

theorem ContainerSample.ofJson?_toJson {c : ContainerSample} (htime : c.time.IsShown) :
    ofJson? c.toJson = some c :=
  bind_of_read (a := ⟨false, _⟩) rfl <|
    bind_required rfl rfl <|
    bind_required rfl rfl <|
    bind_required rfl rfl <|
    bind_required rfl rfl <|
    bind_required rfl rfl <|
    bind_required rfl (uint32?_ofNat c.restarts) <|
    bind_required rfl (int64?_int c.exitCode) <|
    bind_optional rfl (nullable_ofOption_str c.error) <|
    bind_required rfl (Instant.ofJson?_toJson htime) rfl

theorem AlertEvent.ofJson?_toJson {e : AlertEvent} (htime : e.time.IsShown) :
    ofJson? e.toJson = some e :=
  bind_of_read (a := ⟨false, _⟩) rfl <|
    bind_required rfl rfl <|
    bind_required rfl rfl <|
    bind_required rfl (AlertLevel.ofJson?_toJson .json e.level) <|
    bind_required rfl (Instant.ofJson?_toJson htime) rfl

/-! ## The configuration -/

/-- Mail settings without the password. -/
def EmailConfig.withoutSecrets (c : EmailConfig) : EmailConfig := { c with password := "" }

/-- Mailgun settings without the key. -/
def MailgunConfig.withoutSecrets (c : MailgunConfig) : MailgunConfig := { c with apiKey := "" }

/-- Telegram settings without the token. -/
def TelegramConfig.withoutSecrets (c : TelegramConfig) : TelegramConfig := { c with botToken := "" }

/-- Server settings without the password. -/
def StatsServerConfig.withoutSecrets (c : StatsServerConfig) : StatsServerConfig :=
  { c with password := none }

/-- Alerting without the secrets of its channels. -/
def AlertingConfig.withoutSecrets (c : AlertingConfig) : AlertingConfig :=
  { c with
    email := c.email.map EmailConfig.withoutSecrets
    mailgun := c.mailgun.map MailgunConfig.withoutSecrets
    telegram := c.telegram.map TelegramConfig.withoutSecrets }

/-- A configuration without its secrets. -/
def MonitorConfig.withoutSecrets (c : MonitorConfig) : MonitorConfig :=
  { c with
    alerting := c.alerting.withoutSecrets
    server := c.server.map StatsServerConfig.withoutSecrets }

/-- All thresholds are finite. -/
structure ResourceChecks.IsFinite (c : ResourceChecks) : Prop where
  cpu : isFinite c.cpuThreshold = true
  memory : isFinite c.memoryThreshold = true
  disk : isFinite c.diskThreshold = true

variable {format : Format}

theorem ResourceChecks.ofJson?_toJson {c : ResourceChecks} (hfinite : c.IsFinite) :
    ofJson? format c.toJson = some c :=
  bind_of_read (a := ⟨false, _⟩) rfl <|
    bind_withDefault rfl (uint64?_ofNat c.intervalSecs) <|
    bind_withDefault rfl (float?_ofFloat hfinite.cpu) <|
    bind_withDefault rfl (float?_ofFloat hfinite.memory) <|
    bind_withDefault rfl (float?_ofFloat hfinite.disk) <|
    bind_withDefault rfl (list?_ofStrings c.diskPaths) rfl

theorem EndpointCheck.ofJson?_toJson (c : EndpointCheck) : ofJson? format c.toJson = some c :=
  bind_of_read (a := ⟨false, _⟩) rfl <|
    bind_required rfl rfl <|
    bind_required rfl rfl <|
    bind_withDefault rfl rfl <|
    bind_withDefault rfl (uint64?_ofNat c.timeoutSecs) <|
    bind_withDefault rfl (uint16?_ofNat c.expectedStatus) rfl

theorem EndpointChecks.ofJson?_toJson (c : EndpointChecks) : ofJson? format c.toJson = some c :=
  bind_of_read (a := ⟨false, _⟩) rfl <|
    bind_withDefault rfl (uint64?_ofNat c.intervalSecs) <|
    bind_withDefault rfl (uint64?_ofNat c.maxConcurrentProbes) <|
    bind_withDefault rfl (list?_map fun check _ => check.ofJson?_toJson) rfl

theorem ContainerChecks.ofJson?_toJson (c : ContainerChecks) : ofJson? format c.toJson = some c :=
  bind_of_read (a := ⟨false, _⟩) rfl <|
    bind_withDefault rfl rfl <|
    bind_withDefault rfl (uint64?_ofNat c.intervalSecs) <|
    bind_withDefault rfl (list?_ofStrings c.names) rfl

theorem EmailConfig.ofJson?_toJson (c : EmailConfig) :
    ofJson? format c.toJson = some c.withoutSecrets :=
  bind_of_read (a := ⟨false, _⟩) rfl <|
    bind_withDefault rfl rfl <|
    bind_withDefault rfl (uint16?_ofNat c.port) <|
    bind_withDefault rfl rfl <|
    bind_withDefault_missing rfl <|
    bind_withDefault rfl rfl <|
    bind_withDefault rfl rfl <|
    bind_withDefault rfl rfl rfl

theorem MailgunConfig.ofJson?_toJson (c : MailgunConfig) :
    ofJson? format c.toJson = some c.withoutSecrets :=
  bind_of_read (a := ⟨false, _⟩) rfl <|
    bind_withDefault_missing rfl <|
    bind_withDefault rfl rfl <|
    bind_withDefault rfl rfl <|
    bind_withDefault rfl rfl <|
    bind_withDefault rfl rfl rfl

theorem TelegramConfig.ofJson?_toJson (c : TelegramConfig) :
    ofJson? format c.toJson = some c.withoutSecrets :=
  bind_of_read (a := ⟨false, _⟩) rfl <|
    bind_withDefault_missing rfl <|
    bind_withDefault rfl rfl <|
    bind_withDefault rfl rfl rfl

theorem AlertingConfig.ofJson?_toJson (c : AlertingConfig) :
    ofJson? format c.toJson = some c.withoutSecrets :=
  bind_of_read (a := ⟨false, _⟩) rfl <|
    bind_withDefault rfl rfl <|
    bind_withDefault rfl (list?_map fun level _ => level.ofJson?_toJson format) <|
    bind_withDefault rfl (uint64?_ofNat c.cooldownMinutes) <|
    bind_withDefault rfl (uint64?_ofNat c.dispatchIntervalSecs) <|
    bind_withDefault rfl (nullable_ofOption (fun _ => nofun) EmailConfig.ofJson?_toJson) <|
    bind_withDefault rfl (nullable_ofOption (fun _ => nofun) MailgunConfig.ofJson?_toJson) <|
    bind_withDefault rfl (nullable_ofOption (fun _ => nofun) TelegramConfig.ofJson?_toJson) rfl

theorem StatsServerConfig.ofJson?_toJson (c : StatsServerConfig) :
    ofJson? format c.toJson = some c.withoutSecrets :=
  bind_of_read (a := ⟨false, _⟩) rfl <|
    bind_withDefault rfl rfl <|
    bind_withDefault rfl (uint16?_ofNat c.port) <|
    bind_withDefault rfl (nullable_ofOption_str c.username) <|
    bind_withDefault_missing rfl rfl

theorem MonitorConfig.ofJson?_toJson {c : MonitorConfig} (hfinite : c.resources.IsFinite) :
    ofJson? format c.toJson = some c.withoutSecrets :=
  bind_of_read (a := ⟨false, _⟩) rfl <|
    bind_withDefault rfl rfl <|
    bind_withDefault rfl (uint64?_ofNat c.historyCapacity) <|
    bind_withDefault rfl (ResourceChecks.ofJson?_toJson hfinite) <|
    bind_withDefault rfl c.endpoints.ofJson?_toJson <|
    bind_withDefault rfl c.containers.ofJson?_toJson <|
    bind_withDefault rfl c.alerting.ofJson?_toJson <|
    bind_withDefault rfl (nullable_ofOption (fun _ => nofun) StatsServerConfig.ofJson?_toJson) rfl

/-! ## Writing without the secrets -/

theorem EmailConfig.toJson_withoutSecrets (c : EmailConfig) : c.withoutSecrets.toJson = c.toJson :=
  rfl

theorem MailgunConfig.toJson_withoutSecrets (c : MailgunConfig) :
    c.withoutSecrets.toJson = c.toJson :=
  rfl

theorem TelegramConfig.toJson_withoutSecrets (c : TelegramConfig) :
    c.withoutSecrets.toJson = c.toJson :=
  rfl

theorem StatsServerConfig.toJson_withoutSecrets (c : StatsServerConfig) :
    c.withoutSecrets.toJson = c.toJson :=
  rfl

theorem AlertingConfig.toJson_withoutSecrets (c : AlertingConfig) :
    c.withoutSecrets.toJson = c.toJson := by
  simp only [toJson, withoutSecrets, ofOption_map EmailConfig.toJson_withoutSecrets,
    ofOption_map MailgunConfig.toJson_withoutSecrets,
    ofOption_map TelegramConfig.toJson_withoutSecrets]

/-- The secrets are not written, so nothing changes without them. -/
theorem MonitorConfig.toJson_withoutSecrets (c : MonitorConfig) :
    c.withoutSecrets.toJson = c.toJson := by
  simp only [toJson, withoutSecrets, AlertingConfig.toJson_withoutSecrets,
    ofOption_map StatsServerConfig.toJson_withoutSecrets]

/-! ## All records -/

/-- **What is written reads back** as it was, but for the secrets of a configuration: the mail
password, the Mailgun key and the Telegram token are empty, and the password of the server is gone.
Written again it is the same. -/
theorem records_read_back (s : ResourceSample) (e : EndpointResult) (c : ContainerSample)
    (a : AlertEvent) (m : MonitorConfig) :
    (s.time.IsShown → s.IsFinite →
        ReadsBackAs ResourceSample.toJson ResourceSample.ofJson? s s) ∧
      (e.time.IsShown → ReadsBackAs EndpointResult.toJson EndpointResult.ofJson? e e) ∧
      (c.time.IsShown → ReadsBackAs ContainerSample.toJson ContainerSample.ofJson? c c) ∧
      (a.time.IsShown → ReadsBackAs AlertEvent.toJson AlertEvent.ofJson? a a) ∧
      (m.resources.IsFinite →
        ReadsBackAs MonitorConfig.toJson (MonitorConfig.ofJson? .json) m m.withoutSecrets) :=
  ⟨fun htime hfinite => ⟨ResourceSample.ofJson?_toJson htime hfinite, rfl⟩,
    fun htime => ⟨EndpointResult.ofJson?_toJson htime, rfl⟩,
    fun htime => ⟨ContainerSample.ofJson?_toJson htime, rfl⟩,
    fun htime => ⟨AlertEvent.ofJson?_toJson htime, rfl⟩,
    fun hfinite => ⟨MonitorConfig.ofJson?_toJson hfinite, m.toJson_withoutSecrets⟩⟩

/-- An alert within an inserted second is read back, and a configuration loses two passwords. -/
theorem records_read_back_passwords :
    let alert : AlertEvent := ⟨"cpu", "CPU usage is back", .warning, ⟨1483228799, 1500000000⟩⟩
    let config : MonitorConfig :=
      { MonitorConfig.initial with
        alerting := { AlertingConfig.initial with
          email := some { EmailConfig.initial with password := "hunter2" } }
        server := some { StatsServerConfig.initial with password := some "secret" } }
    alert.time.IsShown ∧ config.resources.IsFinite ∧
      AlertEvent.ofJson? alert.toJson = some alert ∧
      MonitorConfig.ofJson? .json config.toJson = some config.withoutSecrets ∧
      config.withoutSecrets ≠ config := by
  intro alert config
  have htime : alert.time.IsShown := ⟨by decide +kernel, by decide, by decide⟩
  have hfinite : config.resources.IsFinite := ⟨by decide, by decide, by decide⟩
  obtain ⟨_, _, _, halert, hconfig⟩ :=
    records_read_back default default default alert config
  exact ⟨htime, hfinite, (halert htime).reads, (hconfig hfinite).reads,
    fun h => absurd (congrArg (·.server) h) (by decide)⟩

end HostWatch
