import HostWatch.Config.Record
import HostWatch.Proofs.Json.Overlay
set_option autoImplicit false

/-!
# Configuration: what is left out

A section that a file gives in part could be the built-in section with the given fields laid over
it, down to the fields of its own sections.  The reader has its own stand-ins for what is left out.
They are the built-in values, section by section, with one exception: a mail section without a port
is read with port 0 and one without the switch for encryption is read as switched off, whereas the
built-in mail section has port 587 and is encrypted.  So reading is laying over the built-in values
exactly when every mail section gives both (`MonitorConfig.read_iff_laidOver`).
-/

namespace HostWatch

open HostWatch.Json (FieldOf Format Record laidOver bind_of_read)

/-! ## The fields of the sections -/

/-- The fields of the resource checks. -/
def ResourceChecks.fields : List (FieldOf ResourceChecks) :=
  [.whole "interval_secs" (·.intervalSecs) (fun x c => { c with intervalSecs := x }) Json.uint64?,
    .whole "cpu_threshold" (·.cpuThreshold) (fun x c => { c with cpuThreshold := x }) Json.float?,
    .whole "memory_threshold" (·.memoryThreshold) (fun x c => { c with memoryThreshold := x })
      Json.float?,
    .whole "disk_threshold" (·.diskThreshold) (fun x c => { c with diskThreshold := x })
      Json.float?,
    .whole "disk_paths" (·.diskPaths) (fun x c => { c with diskPaths := x })
      (Json.list? Json.text?)]

/-- The fields of an endpoint check. -/
def EndpointCheck.fields : List (FieldOf EndpointCheck) :=
  [.whole "name" (·.name) (fun x c => { c with name := x }) Json.text?,
    .whole "url" (·.url) (fun x c => { c with url := x }) Json.text?,
    .whole "method" (·.method) (fun x c => { c with method := x }) Json.text?,
    .whole "timeout_secs" (·.timeoutSecs) (fun x c => { c with timeoutSecs := x }) Json.uint64?,
    .whole "expected_status" (·.expectedStatus) (fun x c => { c with expectedStatus := x })
      Json.uint16?]

/-- An endpoint check that an object describes, which has to give its name and its address: the
check for them with all that is given laid over it. -/
def EndpointCheck.described? (v : Json) : Option EndpointCheck := do
  let name ← (v.given? "name").bind Json.text?
  let url ← (v.given? "url").bind Json.text?
  laidOver fields v (initial name url)

/-- The fields of the endpoint checks. -/
def EndpointChecks.fields : List (FieldOf EndpointChecks) :=
  [.whole "interval_secs" (·.intervalSecs) (fun x c => { c with intervalSecs := x }) Json.uint64?,
    .whole "max_concurrent_probes" (·.maxConcurrentProbes)
      (fun x c => { c with maxConcurrentProbes := x }) Json.uint64?,
    .whole "checks" (·.checks) (fun x c => { c with checks := x })
      (Json.list? EndpointCheck.described?)]

/-- The fields of the container checks. -/
def ContainerChecks.fields : List (FieldOf ContainerChecks) :=
  [.whole "enabled" (·.enabled) (fun x c => { c with enabled := x }) Json.bool?,
    .whole "interval_secs" (·.intervalSecs) (fun x c => { c with intervalSecs := x }) Json.uint64?,
    .whole "names" (·.names) (fun x c => { c with names := x }) (Json.list? Json.text?)]

/-- The fields of a mail section. -/
def EmailConfig.fields : List (FieldOf EmailConfig) :=
  [.whole "smtp_host" (·.host) (fun x c => { c with host := x }) Json.text?,
    .whole "smtp_port" (·.port) (fun x c => { c with port := x }) Json.uint16?,
    .whole "username" (·.username) (fun x c => { c with username := x }) Json.text?,
    .whole "password" (·.password) (fun x c => { c with password := x }) Json.text?,
    .whole "from" (·.sender) (fun x c => { c with sender := x }) Json.text?,
    .whole "to" (·.recipients) (fun x c => { c with recipients := x }) Json.text?,
    .whole "use_tls" (·.useTls) (fun x c => { c with useTls := x }) Json.bool?]

/-- The fields of a Mailgun section. -/
def MailgunConfig.fields : List (FieldOf MailgunConfig) :=
  [.whole "api_key" (·.apiKey) (fun x c => { c with apiKey := x }) Json.text?,
    .whole "domain" (·.domain) (fun x c => { c with domain := x }) Json.text?,
    .whole "from" (·.sender) (fun x c => { c with sender := x }) Json.text?,
    .whole "to" (·.recipients) (fun x c => { c with recipients := x }) Json.text?,
    .whole "base_url" (·.baseUrl) (fun x c => { c with baseUrl := x }) Json.text?]

/-- The fields of a Telegram section. -/
def TelegramConfig.fields : List (FieldOf TelegramConfig) :=
  [.whole "bot_token" (·.botToken) (fun x c => { c with botToken := x }) Json.text?,
    .whole "chat_id" (·.chatId) (fun x c => { c with chatId := x }) Json.text?,
    .whole "api_base" (·.apiBase) (fun x c => { c with apiBase := x }) Json.text?]

/-- The fields of alerting. -/
def AlertingConfig.fields (format : Format) : List (FieldOf AlertingConfig) :=
  [.whole "enabled" (·.enabled) (fun x c => { c with enabled := x }) Json.bool?,
    .whole "levels" (·.levels) (fun x c => { c with levels := x })
      (Json.list? (AlertLevel.ofJson? format)),
    .whole "cooldown_minutes" (·.cooldownMinutes) (fun x c => { c with cooldownMinutes := x })
      Json.uint64?,
    .whole "dispatch_interval_secs" (·.dispatchIntervalSecs)
      (fun x c => { c with dispatchIntervalSecs := x }) Json.uint64?,
    .optional "email" (·.email) (fun x c => { c with email := x }) .initial
      (laidOver EmailConfig.fields),
    .optional "mailgun" (·.mailgun) (fun x c => { c with mailgun := x }) .initial
      (laidOver MailgunConfig.fields),
    .optional "telegram" (·.telegram) (fun x c => { c with telegram := x }) .initial
      (laidOver TelegramConfig.fields)]

/-- The fields of the server. -/
def StatsServerConfig.fields : List (FieldOf StatsServerConfig) :=
  [.whole "bind" (·.bind) (fun x c => { c with bind := x }) Json.text?,
    .whole "port" (·.port) (fun x c => { c with port := x }) Json.uint16?,
    .whole "username" (·.username) (fun x c => { c with username := x })
      (Record.nullable Json.text?),
    .whole "password" (·.password) (fun x c => { c with password := x })
      (Record.nullable Json.text?)]

/-- The fields of a configuration. -/
def MonitorConfig.fields (format : Format) : List (FieldOf MonitorConfig) :=
  [.whole "app_name" (·.appName) (fun x c => { c with appName := x }) Json.text?,
    .whole "history_capacity" (·.historyCapacity) (fun x c => { c with historyCapacity := x })
      Json.uint64?,
    ⟨"resources", (·.resources), (fun x c => { c with resources := x }),
      laidOver ResourceChecks.fields⟩,
    ⟨"endpoints", (·.endpoints), (fun x c => { c with endpoints := x }),
      laidOver EndpointChecks.fields⟩,
    ⟨"containers", (·.containers), (fun x c => { c with containers := x }),
      laidOver ContainerChecks.fields⟩,
    ⟨"alerting", (·.alerting), (fun x c => { c with alerting := x }),
      laidOver (AlertingConfig.fields format)⟩,
    .optional "http_server" (·.server) (fun x c => { c with server := x }) .initial
      (laidOver StatsServerConfig.fields)]

theorem ResourceChecks.fields_lawful : FieldOf.Lawful fields := by
  constructor <;> simp [fields, FieldOf.whole]

theorem EndpointCheck.fields_lawful : FieldOf.Lawful fields := by
  constructor <;> simp [fields, FieldOf.whole]

theorem EndpointChecks.fields_lawful : FieldOf.Lawful fields := by
  constructor <;> simp [fields, FieldOf.whole]

theorem ContainerChecks.fields_lawful : FieldOf.Lawful fields := by
  constructor <;> simp [fields, FieldOf.whole]

theorem EmailConfig.fields_lawful : FieldOf.Lawful fields := by
  constructor <;> simp [fields, FieldOf.whole]

theorem MailgunConfig.fields_lawful : FieldOf.Lawful fields := by
  constructor <;> simp [fields, FieldOf.whole]

theorem TelegramConfig.fields_lawful : FieldOf.Lawful fields := by
  constructor <;> simp [fields, FieldOf.whole]

theorem AlertingConfig.fields_lawful (format : Format) : FieldOf.Lawful (fields format) := by
  constructor <;> simp [fields, FieldOf.whole, FieldOf.optional]

theorem StatsServerConfig.fields_lawful : FieldOf.Lawful fields := by
  constructor <;> simp [fields, FieldOf.whole]

theorem MonitorConfig.fields_lawful (format : Format) : FieldOf.Lawful (fields format) := by
  constructor <;> simp [fields, FieldOf.whole, FieldOf.optional]

/-! ## Sections whose stand-ins are the built-in values -/

variable {format : Format} {v : Json}

theorem ResourceChecks.ofJson?_of_laidOver {c : ResourceChecks}
    (h : laidOver fields v .initial = some c) : ofJson? format v = some c := by
  obtain ⟨r, hr, hfields⟩ := Json.exists_record_of_laidOver fields_lawful format h
  simp only [fields, List.forall_mem_cons] at hfields
  obtain ⟨⟨_, hinterval⟩, ⟨_, hcpu⟩, ⟨_, hmemory⟩, ⟨_, hdisk⟩, ⟨_, hpaths⟩, _⟩ := hfields
  exact bind_of_read hr (bind_of_read hinterval (bind_of_read hcpu (bind_of_read hmemory
    (bind_of_read hdisk (bind_of_read hpaths rfl)))))

theorem EndpointCheck.ofJson?_of_described? {c : EndpointCheck} (h : described? v = some c) :
    ofJson? format v = some c := by
  obtain ⟨name, hname, h⟩ := Option.bind_eq_some_iff.1 h
  obtain ⟨url, hurl, h⟩ := Option.bind_eq_some_iff.1 h
  obtain ⟨r, hr, hfields⟩ := Json.exists_record_of_laidOver fields_lawful format h
  simp only [fields, List.forall_mem_cons] at hfields
  obtain ⟨⟨hnameFound, hnameRead⟩, ⟨hurlFound, hurlRead⟩, ⟨_, hmethod⟩, ⟨_, htimeout⟩,
    ⟨_, hstatus⟩, _⟩ := hfields
  have hname : r.required "name" Json.text? = some c.name :=
    Record.required_of_withDefault (hnameFound ▸ hname) hnameRead
  have hurl : r.required "url" Json.text? = some c.url :=
    Record.required_of_withDefault (hurlFound ▸ hurl) hurlRead
  exact bind_of_read hr (bind_of_read hname (bind_of_read hurl (bind_of_read hmethod
    (bind_of_read htimeout (bind_of_read hstatus rfl)))))

theorem EndpointChecks.ofJson?_of_laidOver {c : EndpointChecks}
    (h : laidOver fields v .initial = some c) : ofJson? format v = some c := by
  obtain ⟨r, hr, hfields⟩ := Json.exists_record_of_laidOver fields_lawful format h
  simp only [fields, List.forall_mem_cons] at hfields
  obtain ⟨⟨_, hinterval⟩, ⟨_, hbound⟩, ⟨_, hchecks⟩, _⟩ := hfields
  have hchecks : r.withDefault "checks" (Json.list? (EndpointCheck.ofJson? format)) [] =
      some c.checks :=
    Record.withDefault_mono
      (Json.list?_mono fun _ _ => EndpointCheck.ofJson?_of_described?) hchecks
  exact bind_of_read hr (bind_of_read hinterval (bind_of_read hbound (bind_of_read hchecks rfl)))

theorem ContainerChecks.ofJson?_of_laidOver {c : ContainerChecks}
    (h : laidOver fields v .initial = some c) : ofJson? format v = some c := by
  obtain ⟨r, hr, hfields⟩ := Json.exists_record_of_laidOver fields_lawful format h
  simp only [fields, List.forall_mem_cons] at hfields
  obtain ⟨⟨_, henabled⟩, ⟨_, hinterval⟩, ⟨_, hnames⟩, _⟩ := hfields
  exact bind_of_read hr (bind_of_read henabled (bind_of_read hinterval (bind_of_read hnames rfl)))

theorem MailgunConfig.ofJson?_of_laidOver {c : MailgunConfig}
    (h : laidOver fields v .initial = some c) : ofJson? format v = some c := by
  obtain ⟨r, hr, hfields⟩ := Json.exists_record_of_laidOver fields_lawful format h
  simp only [fields, List.forall_mem_cons] at hfields
  obtain ⟨⟨_, hkey⟩, ⟨_, hdomain⟩, ⟨_, hsender⟩, ⟨_, hrecipients⟩, ⟨_, hbase⟩, _⟩ := hfields
  exact bind_of_read hr (bind_of_read hkey (bind_of_read hdomain (bind_of_read hsender
    (bind_of_read hrecipients (bind_of_read hbase rfl)))))

theorem TelegramConfig.ofJson?_of_laidOver {c : TelegramConfig}
    (h : laidOver fields v .initial = some c) : ofJson? format v = some c := by
  obtain ⟨r, hr, hfields⟩ := Json.exists_record_of_laidOver fields_lawful format h
  simp only [fields, List.forall_mem_cons] at hfields
  obtain ⟨⟨_, htoken⟩, ⟨_, hchat⟩, ⟨_, hbase⟩, _⟩ := hfields
  exact bind_of_read hr (bind_of_read htoken (bind_of_read hchat (bind_of_read hbase rfl)))

theorem StatsServerConfig.ofJson?_of_laidOver {c : StatsServerConfig}
    (h : laidOver fields v .initial = some c) : ofJson? format v = some c := by
  obtain ⟨r, hr, hfields⟩ := Json.exists_record_of_laidOver fields_lawful format h
  simp only [fields, List.forall_mem_cons] at hfields
  obtain ⟨⟨_, hbind⟩, ⟨_, hport⟩, ⟨_, husername⟩, ⟨_, hpassword⟩, _⟩ := hfields
  exact bind_of_read hr (bind_of_read hbind (bind_of_read hport (bind_of_read husername
    (bind_of_read hpassword rfl))))

/-! ## Mail sections, and what holds them -/

/-- What the reader makes of an object that can be laid over the built-in mail section. -/
def EmailConfig.asRead (v : Json) (c : EmailConfig) : EmailConfig :=
  { c with
    port := if (v.given? "smtp_port").isSome then c.port else 0
    useTls := if (v.given? "use_tls").isSome then c.useTls else false }

/-- What the reader makes of an object that can be laid over the built-in alerting. -/
def AlertingConfig.asRead (v : Json) (c : AlertingConfig) : AlertingConfig :=
  { c with email := c.email.map (EmailConfig.asRead ((v.given? "email").getD .null)) }

/-- What the reader makes of an object that can be laid over the built-in configuration. -/
def MonitorConfig.asRead (v : Json) (c : MonitorConfig) : MonitorConfig :=
  { c with alerting := c.alerting.asRead ((v.given? "alerting").getD .null) }

/-- A mail section gives its port and the switch for encryption. -/
def EmailConfig.GivesTransport (v : Json) : Prop :=
  (v.given? "smtp_port").isSome ∧ (v.given? "use_tls").isSome

/-- The mail section of alerting, if there is one, gives its port and the switch. -/
def AlertingConfig.GivesTransport (v : Json) : Prop :=
  ∀ email, v.given? "email" = some email → email ≠ .null → EmailConfig.GivesTransport email

/-- The mail section of a configuration, if there is one, gives its port and the switch. -/
def MonitorConfig.GivesTransport (v : Json) : Prop :=
  ∀ alerting, v.given? "alerting" = some alerting → AlertingConfig.GivesTransport alerting

theorem EmailConfig.ofJson?_of_laidOver {c : EmailConfig}
    (h : laidOver fields v .initial = some c) : ofJson? format v = some (c.asRead v) := by
  obtain ⟨r, hr, hfields⟩ := Json.exists_record_of_laidOver fields_lawful format h
  simp only [fields, List.forall_mem_cons] at hfields
  obtain ⟨⟨_, hhost⟩, ⟨hportFound, hport⟩, ⟨_, husername⟩, ⟨_, hpassword⟩, ⟨_, hsender⟩,
    ⟨_, hrecipients⟩, ⟨hswitchFound, hswitch⟩, _⟩ := hfields
  have hport : r.withDefault "smtp_port" Json.uint16? 0 = some (c.asRead v).port :=
    Record.withDefault_other hportFound hport _
  have hswitch : r.withDefault "use_tls" Json.bool? false = some (c.asRead v).useTls :=
    Record.withDefault_other hswitchFound hswitch _
  exact bind_of_read hr (bind_of_read hhost (bind_of_read hport (bind_of_read husername
    (bind_of_read hpassword (bind_of_read hsender (bind_of_read hrecipients
      (bind_of_read hswitch rfl)))))))

theorem AlertingConfig.ofJson?_of_laidOver {c : AlertingConfig}
    (h : laidOver (fields format) v .initial = some c) : ofJson? format v = some (c.asRead v) := by
  obtain ⟨r, hr, hfields⟩ := Json.exists_record_of_laidOver (fields_lawful format) format h
  simp only [fields, List.forall_mem_cons] at hfields
  obtain ⟨⟨_, henabled⟩, ⟨_, hlevels⟩, ⟨_, hcooldown⟩, ⟨_, hinterval⟩, ⟨hemailFound, hemail⟩,
    ⟨_, hmailgun⟩, ⟨_, htelegram⟩, _⟩ := hfields
  have hemail : r.withDefault "email" (Record.nullable (EmailConfig.ofJson? format)) none =
      some (c.asRead v).email :=
    Record.withDefault_map (Record.nullable_map fun _ _ => EmailConfig.ofJson?_of_laidOver) rfl
      hemailFound hemail
  have hmailgun : r.withDefault "mailgun" (Record.nullable (MailgunConfig.ofJson? format)) none =
      some c.mailgun :=
    Record.withDefault_mono
      (Record.nullable_mono fun _ _ => MailgunConfig.ofJson?_of_laidOver) hmailgun
  have htelegram : r.withDefault "telegram" (Record.nullable (TelegramConfig.ofJson? format)) none =
      some c.telegram :=
    Record.withDefault_mono
      (Record.nullable_mono fun _ _ => TelegramConfig.ofJson?_of_laidOver) htelegram
  exact bind_of_read hr (bind_of_read henabled (bind_of_read hlevels (bind_of_read hcooldown
    (bind_of_read hinterval (bind_of_read hemail (bind_of_read hmailgun
      (bind_of_read htelegram rfl)))))))

theorem MonitorConfig.ofJson?_of_laidOver {c : MonitorConfig}
    (h : laidOver (fields format) v .initial = some c) : ofJson? format v = some (c.asRead v) := by
  obtain ⟨r, hr, hfields⟩ := Json.exists_record_of_laidOver (fields_lawful format) format h
  simp only [fields, List.forall_mem_cons] at hfields
  obtain ⟨⟨_, hname⟩, ⟨_, hcapacity⟩, ⟨_, hresources⟩, ⟨_, hendpoints⟩, ⟨_, hcontainers⟩,
    ⟨halertingFound, halerting⟩, ⟨_, hserver⟩, _⟩ := hfields
  have hresources : r.withDefault "resources" (ResourceChecks.ofJson? format) .initial =
      some c.resources :=
    Record.withDefault_mono (fun _ _ => ResourceChecks.ofJson?_of_laidOver) hresources
  have hendpoints : r.withDefault "endpoints" (EndpointChecks.ofJson? format) .initial =
      some c.endpoints :=
    Record.withDefault_mono (fun _ _ => EndpointChecks.ofJson?_of_laidOver) hendpoints
  have hcontainers : r.withDefault "containers" (ContainerChecks.ofJson? format) .initial =
      some c.containers :=
    Record.withDefault_mono (fun _ _ => ContainerChecks.ofJson?_of_laidOver) hcontainers
  have halerting : r.withDefault "alerting" (AlertingConfig.ofJson? format) .initial =
      some (c.asRead v).alerting :=
    Record.withDefault_map (fun _ _ => AlertingConfig.ofJson?_of_laidOver) rfl halertingFound
      halerting
  have hserver : r.withDefault "http_server"
      (Record.nullable (StatsServerConfig.ofJson? format)) none = some c.server :=
    Record.withDefault_mono
      (Record.nullable_mono fun _ _ => StatsServerConfig.ofJson?_of_laidOver) hserver
  exact bind_of_read hr (bind_of_read hname (bind_of_read hcapacity (bind_of_read hresources
    (bind_of_read hendpoints (bind_of_read hcontainers (bind_of_read halerting
      (bind_of_read hserver rfl)))))))

/-! ## When the reader agrees -/

/-- The stand-ins for the port and the switch are not the built-in values, so both have to be given
for the reader to agree. -/
theorem EmailConfig.asRead_eq_iff {c : EmailConfig} (h : laidOver fields v .initial = some c) :
    c.asRead v = c ↔ GivesTransport v := by
  have hfields := Json.laidOver_cases fields_lawful h
  simp only [fields, List.forall_mem_cons] at hfields
  obtain ⟨_, hport, _, _, _, _, hswitch, _⟩ := hfields
  constructor
  · intro hsame
    constructor
    · obtain ⟨hleft, hinitial⟩ | ⟨w, hgiven, _⟩ := hport
      · have hread : (c.asRead v).port = 0 := if_neg (hleft ▸ nofun)
        rw [hsame, show c.port = 587 from hinitial] at hread
        exact absurd hread (by decide)
      · exact Option.isSome_of_eq_some hgiven
    · obtain ⟨hleft, hinitial⟩ | ⟨w, hgiven, _⟩ := hswitch
      · have hread : (c.asRead v).useTls = false := if_neg (hleft ▸ nofun)
        rw [hsame, show c.useTls = true from hinitial] at hread
        exact absurd hread (by decide)
      · exact Option.isSome_of_eq_some hgiven
  · rintro ⟨hport, hswitch⟩
    rw [asRead, if_pos hport, if_pos hswitch]

theorem AlertingConfig.asRead_eq_iff {c : AlertingConfig}
    (h : laidOver (fields format) v .initial = some c) : c.asRead v = c ↔ GivesTransport v := by
  have hfields := Json.laidOver_cases (fields_lawful format) h
  simp only [fields, List.forall_mem_cons] at hfields
  obtain ⟨_, _, _, _, hemail, _⟩ := hfields
  have hsame : c.asRead v = c ↔
      c.email.map (EmailConfig.asRead ((v.given? "email").getD .null)) = c.email :=
    ⟨congrArg AlertingConfig.email, fun hemail => congrArg (fun e => { c with email := e }) hemail⟩
  rw [hsame, GivesTransport]
  obtain ⟨hleft, hnone⟩ | ⟨email, hgiven, hread⟩ := hemail
  · have hleft : v.given? "email" = none := hleft
    have hnone : c.email = none := hnone
    simp [hleft, hnone]
  · have hgiven : v.given? "email" = some email := hgiven
    obtain ⟨rfl, hnone⟩ | ⟨mail, hthere, hlaid, hmail⟩ := Record.nullable_cases hread
    · have hnone : c.email = none := hnone
      simp [hgiven, hnone]
    · have hmail : c.email = some mail := hmail
      simp [hgiven, hmail, hthere, EmailConfig.asRead_eq_iff hlaid]

theorem MonitorConfig.asRead_eq_iff {c : MonitorConfig}
    (h : laidOver (fields format) v .initial = some c) : c.asRead v = c ↔ GivesTransport v := by
  have hfields := Json.laidOver_cases (fields_lawful format) h
  simp only [fields, List.forall_mem_cons] at hfields
  obtain ⟨_, _, _, _, _, halerting, _⟩ := hfields
  have hsame : c.asRead v = c ↔
      c.alerting.asRead ((v.given? "alerting").getD .null) = c.alerting :=
    ⟨congrArg MonitorConfig.alerting, fun ha => congrArg (fun a => { c with alerting := a }) ha⟩
  rw [hsame, GivesTransport]
  obtain ⟨hleft, hinitial⟩ | ⟨alerting, hgiven, hlaid⟩ := halerting
  · have hleft : v.given? "alerting" = none := hleft
    have hinitial : c.alerting = .initial := hinitial
    rw [hleft, hinitial]
    exact ⟨fun _ => nofun, fun _ => rfl⟩
  · have hgiven : v.given? "alerting" = some alerting := hgiven
    rw [hgiven, Option.getD_some, AlertingConfig.asRead_eq_iff hlaid]
    simp

/-! ## The two sources of values -/

/-- **Reading an object is laying it over the built-in values**, for every section that holds no
mail section.  A mail section is read too, but the result is the built-in section with what is
given exactly when both the port and the switch for encryption are given; so it is for alerting and
for the whole configuration, wherever they hold a mail section. -/
theorem MonitorConfig.read_iff_laidOver (format : Format) (v : Json) :
    (∀ c, laidOver ResourceChecks.fields v .initial = some c →
        ResourceChecks.ofJson? format v = some c) ∧
      (∀ c, laidOver EndpointChecks.fields v .initial = some c →
        EndpointChecks.ofJson? format v = some c) ∧
      (∀ c, laidOver ContainerChecks.fields v .initial = some c →
        ContainerChecks.ofJson? format v = some c) ∧
      (∀ c, laidOver MailgunConfig.fields v .initial = some c →
        MailgunConfig.ofJson? format v = some c) ∧
      (∀ c, laidOver TelegramConfig.fields v .initial = some c →
        TelegramConfig.ofJson? format v = some c) ∧
      (∀ c, laidOver StatsServerConfig.fields v .initial = some c →
        StatsServerConfig.ofJson? format v = some c) ∧
      (∀ c, laidOver EmailConfig.fields v .initial = some c →
        EmailConfig.ofJson? format v = some (c.asRead v) ∧
          (c.asRead v = c ↔ EmailConfig.GivesTransport v)) ∧
      (∀ c, laidOver (AlertingConfig.fields format) v .initial = some c →
        AlertingConfig.ofJson? format v = some (c.asRead v) ∧
          (c.asRead v = c ↔ AlertingConfig.GivesTransport v)) ∧
      (∀ c, laidOver (MonitorConfig.fields format) v .initial = some c →
        MonitorConfig.ofJson? format v = some (c.asRead v) ∧
          (c.asRead v = c ↔ MonitorConfig.GivesTransport v)) :=
  ⟨fun _ => ResourceChecks.ofJson?_of_laidOver, fun _ => EndpointChecks.ofJson?_of_laidOver,
    fun _ => ContainerChecks.ofJson?_of_laidOver, fun _ => MailgunConfig.ofJson?_of_laidOver,
    fun _ => TelegramConfig.ofJson?_of_laidOver, fun _ => StatsServerConfig.ofJson?_of_laidOver,
    fun _ h => ⟨EmailConfig.ofJson?_of_laidOver h, EmailConfig.asRead_eq_iff h⟩,
    fun _ h => ⟨AlertingConfig.ofJson?_of_laidOver h, AlertingConfig.asRead_eq_iff h⟩,
    fun _ h => ⟨MonitorConfig.ofJson?_of_laidOver h, MonitorConfig.asRead_eq_iff h⟩⟩

/-- A mail section that leaves out only the switch for encryption: the built-in section with what is
given is encrypted, and the section that is read is not. -/
theorem EmailConfig.read_without_switch :
    laidOver EmailConfig.fields (.obj [("smtp_host", .str "mail.example.com"),
        ("smtp_port", .int 587), ("from", .str "monic@example.com"),
        ("to", .str "ops@example.com")]) .initial =
      some ⟨"mail.example.com", 587, "", "", "monic@example.com", "ops@example.com", true⟩ ∧
    EmailConfig.ofJson? .json (.obj [("smtp_host", .str "mail.example.com"),
        ("smtp_port", .int 587), ("from", .str "monic@example.com"),
        ("to", .str "ops@example.com")]) =
      some ⟨"mail.example.com", 587, "", "", "monic@example.com", "ops@example.com", false⟩ := by
  decide

end HostWatch
