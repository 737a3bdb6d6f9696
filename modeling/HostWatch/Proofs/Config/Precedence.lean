import HostWatch.Proofs.Config.Ignored
import HostWatch.Proofs.Config.Locality
set_option autoImplicit false

/-!
# Configuration: the environment has the last word

A variable that is set and can be read decides about the setting that it names, whatever the
configuration said before (`MonitorConfig.Setting`).  Laid over a configuration a second time, the
environment finds its own values, so nothing changes any more (`MonitorConfig.environment_wins`).

The variables of the first endpoint check stand apart.  With an address they describe a new check,
which keeps nothing of the one before.  Without an address there is nothing to describe, and the
others do nothing, even if they can be read (`MonitorConfig.timeout_without_address`).
-/

namespace HostWatch

open HostWatch.Text

/-! ## Laying values over a section -/

@[simp]
theorem overlay_overlay {α : Type} (new : Option α) (old : α) :
    overlay new (overlay new old) = overlay new old := by
  cases new <;> rfl

/-- The values of the Telegram variables, laid over a Telegram section. -/
def TelegramConfig.laidUnder (env : Environment) (c : TelegramConfig) : TelegramConfig :=
  { c with
    botToken := overlay (env.get? "TELEGRAM_BOT_TOKEN") c.botToken
    chatId := overlay (env.get? "TELEGRAM_CHAT_ID") c.chatId }

/-- The values of the Mailgun variables, laid over a Mailgun section. -/
def MailgunConfig.laidUnder (env : Environment) (c : MailgunConfig) : MailgunConfig :=
  { c with
    apiKey := overlay (env.get? "MAILGUN_API_KEY") c.apiKey
    domain := overlay (env.get? "MAILGUN_DOMAIN") c.domain
    sender := overlay (env.get? "MAILGUN_FROM") c.sender
    recipients := overlay (env.get? "MAILGUN_TO") c.recipients }

section

variable (env : Environment)

theorem TelegramConfig.laidUnder_laidUnder (c : TelegramConfig) :
    laidUnder env (laidUnder env c) = laidUnder env c := by
  simp only [laidUnder, overlay_overlay]

theorem MailgunConfig.laidUnder_laidUnder (c : MailgunConfig) :
    laidUnder env (laidUnder env c) = laidUnder env c := by
  simp only [laidUnder, overlay_overlay]

theorem EmailConfig.laidUnder_laidUnder (c : EmailConfig) :
    laidUnder env (laidUnder env c) = laidUnder env c := by
  simp only [laidUnder, overlay_overlay]

theorem StatsServerConfig.laidUnder_laidUnder (c : StatsServerConfig) :
    laidUnder env (laidUnder env c) = laidUnder env c := by
  simp only [laidUnder, overlay_overlay, ← Option.or_assoc, Option.or_self]

end

/-- A section that comes into being when one of its variables is set, with their values laid
over it. -/
def laidSection {α : Type} (names : List String) (initial : α) (laid : Environment → α → α)
    (env : Environment) (section? : Option α) : Option α :=
  if env.anySet names then some (laid env (section?.getD initial)) else section?

section

variable {α : Type} {names : List String} {initial : α} {laid : Environment → α → α}
  {env : Environment} {section? : Option α}

theorem laidSection_laidSection (hlaid : ∀ c, laid env (laid env c) = laid env c) :
    laidSection names initial laid env (laidSection names initial laid env section?) =
      laidSection names initial laid env section? := by
  simp only [laidSection]
  split
  · rw [Option.getD_some, hlaid]
  · rfl

theorem laidSection_of_set {n : String} (hn : n ∈ names) (hset : (env.get? n).isSome = true) :
    laidSection names initial laid env section? = some (laid env (section?.getD initial)) :=
  if_pos (Environment.anySet_iff.2 ⟨n, hn, hset⟩)

end

namespace MonitorConfig

/-! ## Twice is once -/

section

variable (c : MonitorConfig) (env : Environment)

theorem telegram_overriddenBy : (c.overriddenBy env).alerting.telegram =
    laidSection telegramVariables .initial TelegramConfig.laidUnder env c.alerting.telegram :=
  rfl

theorem mailgun_overriddenBy : (c.overriddenBy env).alerting.mailgun =
    laidSection mailgunVariables .initial MailgunConfig.laidUnder env c.alerting.mailgun :=
  rfl

theorem email_overriddenBy : (c.overriddenBy env).alerting.email =
    laidSection smtpVariables .initial EmailConfig.laidUnder env c.alerting.email :=
  rfl

theorem server_overriddenBy : (c.overriddenBy env).server =
    laidSection serverVariables .initial StatsServerConfig.laidUnder env c.server :=
  rfl

/-- **Twice is once**: an environment that is laid over a configuration again changes no part. -/
theorem overriddenBy_overriddenBy :
    (c.overriddenBy env).overriddenBy env = c.overriddenBy env := by
  have hor : ∀ old isSet : Bool, ((old || isSet) || isSet) = (old || isSet) := by decide
  refine eq_of_same fun p => ?_
  cases p with
  | appName => exact overlay_overlay _ _
  | resourceInterval => exact overlay_overlay _ _
  | cpuThreshold => exact overlay_overlay _ _
  | memoryThreshold => exact overlay_overlay _ _
  | diskThreshold => exact overlay_overlay _ _
  | diskPaths => exact overlay_overlay _ _
  | firstCheck =>
    show ((c.endpoints.overriddenBy env).overriddenBy env).checks.head? =
      (c.endpoints.overriddenBy env).checks.head?
    rw [EndpointChecks.head?_overriddenBy, EndpointChecks.head?_overriddenBy, ← Option.or_assoc,
      Option.or_self]
  | containerInterval => exact overlay_overlay _ _
  | containerNames => exact overlay_overlay _ _
  | containersEnabled => exact hor _ _
  | levels => exact overlay_overlay _ _
  | cooldown => exact overlay_overlay _ _
  | telegram => exact laidSection_laidSection (TelegramConfig.laidUnder_laidUnder env)
  | mailgun => exact laidSection_laidSection (MailgunConfig.laidUnder_laidUnder env)
  | email => exact laidSection_laidSection (EmailConfig.laidUnder_laidUnder env)
  | alertingEnabled => exact hor _ _
  | server => exact laidSection_laidSection (StatsServerConfig.laidUnder_laidUnder env)
  | rest => exact rest_overriddenBy _ env

end

end MonitorConfig

/-! ## Settings and the variables that name them -/

/-- A setting in a section, and the variable that names it. -/
structure Setting (σ : Type) where
  Value : Type
  name : String
  /-- what a value that is not blank says, if it can be read -/
  read : String → Option Value
  /-- the setting as it stands, if the section has one -/
  get? : σ → Option Value

namespace Setting

variable {σ α : Type}

/-- A setting that is taken as it is written. -/
def text (name : String) (get : σ → String) : Setting σ :=
  ⟨String, name, some, fun c => some (get c)⟩

/-- A setting that is taken as it is written and may be missing. -/
def optionalText (name : String) (get? : σ → Option String) : Setting σ :=
  ⟨String, name, some, get?⟩

/-- A setting with a value that has to be read. -/
def ofVariable (v : Variable α) (get : σ → α) : Setting σ :=
  ⟨α, v.name, fun raw => v.read (trim raw), fun c => some (get c)⟩

/-- A setting that is a list. -/
def list (name : String) (entries : List String → List α) (get : σ → List α) : Setting σ :=
  ⟨List α, name, fun raw => some (entries (commaList raw)), fun c => some (get c)⟩

/-- A setting of a section as one of the whole configuration. -/
def within (place? : MonitorConfig → Option σ) (s : Setting σ) : Setting MonitorConfig :=
  ⟨s.Value, s.name, s.read, fun c => (place? c).bind s.get?⟩

/-- The settings outside the sections that come into being. -/
def plain : List (Setting MonitorConfig) :=
  [text "APP_NAME" (·.appName),
    ofVariable .resourceInterval (·.resources.intervalSecs),
    ofVariable .cpuThreshold (·.resources.cpuThreshold),
    ofVariable .memoryThreshold (·.resources.memoryThreshold),
    ofVariable .diskThreshold (·.resources.diskThreshold),
    list "DISK_PATHS" id (·.resources.diskPaths),
    ofVariable .containerInterval (·.containers.intervalSecs),
    list "CHECK_DOCKER_CONTAINERS" id (·.containers.names),
    list "ALERTING_LEVELS" levelsOf (·.alerting.levels),
    ofVariable .cooldown (·.alerting.cooldownMinutes)]

/-- The settings of the Telegram section. -/
def telegram : List (Setting TelegramConfig) :=
  [text "TELEGRAM_BOT_TOKEN" (·.botToken), text "TELEGRAM_CHAT_ID" (·.chatId)]

/-- The settings of the Mailgun section. -/
def mailgun : List (Setting MailgunConfig) :=
  [text "MAILGUN_API_KEY" (·.apiKey), text "MAILGUN_DOMAIN" (·.domain),
    text "MAILGUN_FROM" (·.sender), text "MAILGUN_TO" (·.recipients)]

/-- The settings of the mail section. -/
def email : List (Setting EmailConfig) :=
  [text "SMTP_HOST" (·.host), ofVariable .smtpPort (·.port), text "SMTP_USERNAME" (·.username),
    text "SMTP_PASSWORD" (·.password), text "SMTP_FROM" (·.sender), text "SMTP_TO" (·.recipients),
    ofVariable .smtpTls (·.useTls)]

/-- The settings of the server. -/
def server : List (Setting StatsServerConfig) :=
  [ofVariable .serverPort (·.port), optionalText "HTTP_SERVER_USERNAME" (·.username),
    optionalText "HTTP_SERVER_PASSWORD" (·.password)]

/-- The settings that have a variable each; the first endpoint check is not among them. -/
def all : List (Setting MonitorConfig) :=
  plain ++ telegram.map (within (·.alerting.telegram)) ++
    mailgun.map (within (·.alerting.mailgun)) ++ email.map (within (·.alerting.email)) ++
    server.map (within (·.server))

/-- **Every variable has its setting**, those of the first endpoint check aside. -/
theorem exists_of_mem_ownVariables (p : MonitorConfig.Part) :
    ∀ n ∈ p.ownVariables, n ∈ probeVariables ∨ ∃ s ∈ all, s.name = n := by
  have hnames : ∀ n ∈ p.ownVariables, n ∈ probeVariables ∨ n ∈ all.map (·.name) := by
    cases p <;> decide
  simpa only [List.mem_map] using hnames

/-! ## Values that are laid over a setting -/

/-- The value that an environment has for a setting, if there is one that can be read. -/
def value? (s : Setting σ) (env : Environment) : Option s.Value := (env.get? s.name).bind s.read

/-- The value of the variable is laid over the setting. -/
def LaidBy (s : Setting σ) (laid : Environment → σ → σ) : Prop :=
  ∀ env c, s.get? (laid env c) = (s.value? env).or (s.get? c)

section

variable {name : String} {laid : Environment → σ → σ}

theorem some_overlay (new : Option α) (old : α) : some (overlay new old) = new.or (some old) := by
  cases new <;> rfl

theorem laidBy_of_overlay {s : Setting σ} {get : σ → s.Value}
    (hget : ∀ c, s.get? c = some (get c))
    (h : ∀ env c, get (laid env c) = overlay (s.value? env) (get c)) : s.LaidBy laid := by
  intro env c
  rw [hget, hget, h, some_overlay]

theorem laidBy_text {get : σ → String}
    (h : ∀ env c, get (laid env c) = overlay (env.get? name) (get c)) :
    (text name get).LaidBy laid := by
  refine laidBy_of_overlay (fun _ => rfl) fun env c => ?_
  have hvalue : (text name get).value? env = env.get? name := Option.bind_fun_some _
  rw [hvalue]
  exact h env c

theorem laidBy_optionalText {get? : σ → Option String}
    (h : ∀ env c, get? (laid env c) = (env.get? name).or (get? c)) :
    (optionalText name get?).LaidBy laid := by
  intro env c
  have hvalue : (optionalText name get?).value? env = env.get? name := Option.bind_fun_some _
  rw [hvalue]
  exact h env c

theorem laidBy_ofVariable {v : Variable α} {get : σ → α}
    (h : ∀ env c, get (laid env c) = overlay (v.value? env) (get c)) :
    (ofVariable v get).LaidBy laid :=
  laidBy_of_overlay (fun _ => rfl) h

theorem laidBy_list {entries : List String → List α} {get : σ → List α}
    (h : ∀ env c, get (laid env c) = overlay ((env.list? name).map entries) (get c)) :
    (list name entries get).LaidBy laid := by
  refine laidBy_of_overlay (fun _ => rfl) fun env c => ?_
  have hvalue : (list name entries get).value? env = (env.list? name).map entries := by
    rw [value?, Environment.list?, Option.map_map]
    exact Option.map_eq_bind.symm
  rw [hvalue]
  exact h env c

end

theorem plain_laidBy : ∀ s ∈ plain, s.LaidBy fun env c => c.overriddenBy env := by
  simp only [plain, List.forall_mem_cons]
  exact ⟨laidBy_text fun _ _ => rfl, laidBy_ofVariable fun _ _ => rfl,
    laidBy_ofVariable fun _ _ => rfl, laidBy_ofVariable fun _ _ => rfl,
    laidBy_ofVariable fun _ _ => rfl, laidBy_list fun _ _ => by rw [Option.map_id]; rfl,
    laidBy_ofVariable fun _ _ => rfl, laidBy_list fun _ _ => by rw [Option.map_id]; rfl,
    laidBy_list fun _ _ => rfl, laidBy_ofVariable fun _ _ => rfl, nofun⟩

theorem telegram_laidBy : ∀ s ∈ telegram, s.LaidBy TelegramConfig.laidUnder := by
  simp only [telegram, List.forall_mem_cons]
  exact ⟨laidBy_text fun _ _ => rfl, laidBy_text fun _ _ => rfl, nofun⟩

theorem mailgun_laidBy : ∀ s ∈ mailgun, s.LaidBy MailgunConfig.laidUnder := by
  simp only [mailgun, List.forall_mem_cons]
  exact ⟨laidBy_text fun _ _ => rfl, laidBy_text fun _ _ => rfl, laidBy_text fun _ _ => rfl,
    laidBy_text fun _ _ => rfl, nofun⟩

theorem email_laidBy : ∀ s ∈ email, s.LaidBy EmailConfig.laidUnder := by
  simp only [email, List.forall_mem_cons]
  exact ⟨laidBy_text fun _ _ => rfl, laidBy_ofVariable fun _ _ => rfl, laidBy_text fun _ _ => rfl,
    laidBy_text fun _ _ => rfl, laidBy_text fun _ _ => rfl, laidBy_text fun _ _ => rfl,
    laidBy_ofVariable fun _ _ => rfl, nofun⟩

theorem server_laidBy : ∀ s ∈ server, s.LaidBy StatsServerConfig.laidUnder := by
  simp only [server, List.forall_mem_cons]
  exact ⟨laidBy_ofVariable fun _ _ => rfl, laidBy_optionalText fun _ _ => rfl,
    laidBy_optionalText fun _ _ => rfl, nofun⟩

/-! ## The environment wins -/

/-- The variable decides about the setting if it can be read, whatever the configuration says. -/
def Wins (s : Setting MonitorConfig) : Prop :=
  ∀ (c : MonitorConfig) (env : Environment) (raw : String) (value : s.Value),
    env.get? s.name = some raw → s.read raw = some value →
      s.get? (c.overriddenBy env) = some value

theorem value?_eq_some {s : Setting σ} {env : Environment} {raw : String} {value : s.Value}
    (hset : env.get? s.name = some raw) (hread : s.read raw = some value) :
    s.value? env = some value := by
  rw [value?, hset, Option.bind_some, hread]

theorem LaidBy.wins {s : Setting MonitorConfig} (h : s.LaidBy fun env c => c.overriddenBy env) :
    s.Wins := by
  intro c env raw value hset hread
  rw [h env c, value?_eq_some hset hread, Option.some_or]

/-- In a section that comes into being the variable first takes care that the section is there. -/
theorem within_wins {s : Setting σ} {names : List String} {initial : σ}
    {laid : Environment → σ → σ} {place? : MonitorConfig → Option σ} (hname : s.name ∈ names)
    (hlaid : s.LaidBy laid)
    (hsection : ∀ c env,
      place? (c.overriddenBy env) = laidSection names initial laid env (place? c)) :
    (s.within place?).Wins := by
  intro c env raw (value : s.Value) (hset : env.get? s.name = some raw) hread
  have hthere : place? (c.overriddenBy env) = some (laid env ((place? c).getD initial)) := by
    rw [hsection, laidSection_of_set hname (Option.isSome_of_eq_some hset)]
  show (place? (c.overriddenBy env)).bind s.get? = some value
  rw [hthere, Option.bind_some, hlaid, value?_eq_some hset hread, Option.some_or]

/-- **The environment wins** over the configuration in every setting. -/
theorem wins_of_mem : ∀ s ∈ all, s.Wins := by
  simp only [all, List.forall_mem_append, List.forall_mem_map]
  refine ⟨⟨⟨⟨fun s hs => (plain_laidBy s hs).wins, fun s hs => ?_⟩, fun s hs => ?_⟩,
    fun s hs => ?_⟩, fun s hs => ?_⟩
  · have hname : ∀ s ∈ telegram, s.name ∈ telegramVariables := by decide
    exact within_wins (hname s hs) (telegram_laidBy s hs) MonitorConfig.telegram_overriddenBy
  · have hname : ∀ s ∈ mailgun, s.name ∈ mailgunVariables := by decide
    exact within_wins (hname s hs) (mailgun_laidBy s hs) MonitorConfig.mailgun_overriddenBy
  · have hname : ∀ s ∈ email, s.name ∈ smtpVariables := by decide
    exact within_wins (hname s hs) (email_laidBy s hs) MonitorConfig.email_overriddenBy
  · have hname : ∀ s ∈ server, s.name ∈ serverVariables := by decide
    exact within_wins (hname s hs) (server_laidBy s hs) MonitorConfig.server_overriddenBy

end Setting

namespace MonitorConfig

/-- The first check is the one that the variables describe, from the built-in values on. -/
theorem checks_overriddenBy_of_address {env : Environment} {url : String}
    (h : env.get? "CHECK_HTTP_URL" = some url) (c : MonitorConfig) :
    (c.overriddenBy env).endpoints.checks =
      { name := "http-check"
        url := url
        method := overlay ((env.get? "CHECK_HTTP_METHOD").map upperAscii) "GET"
        timeoutSecs := overlay (Variable.probeTimeout.value? env) 10
        expectedStatus := overlay (Variable.probeStatus.value? env) 200 } ::
          c.endpoints.checks.tail := by
  show (c.endpoints.overriddenBy env).checks = _
  rw [EndpointChecks.overriddenBy, EndpointCheck.ofEnvironment?, h]
  rfl

theorem endpoints_overriddenBy_of_no_address {env : Environment}
    (h : env.get? "CHECK_HTTP_URL" = none) (c : MonitorConfig) :
    (c.overriddenBy env).endpoints = c.endpoints := by
  show c.endpoints.overriddenBy env = _
  rw [EndpointChecks.overriddenBy, EndpointCheck.ofEnvironment?, h]
  rfl

/-- **The environment has the last word.**  Laid over a configuration twice it does what it does
once.  Every variable but those of the first endpoint check decides about its setting when it is set
and can be read, whatever the configuration says.  The variables of the first endpoint check with an
address put a check in the first place that keeps nothing of the one before; without an address they
do nothing. -/
theorem environment_wins (c : MonitorConfig) (env : Environment) :
    (c.overriddenBy env).overriddenBy env = c.overriddenBy env ∧
      (∀ p : Part, ∀ n ∈ p.ownVariables, n ∈ probeVariables ∨ ∃ s ∈ Setting.all, s.name = n) ∧
      (∀ s ∈ Setting.all, ∀ raw value, env.get? s.name = some raw → s.read raw = some value →
        s.get? (c.overriddenBy env) = some value) ∧
      (∀ url, env.get? "CHECK_HTTP_URL" = some url →
        (c.overriddenBy env).endpoints.checks =
          { name := "http-check"
            url := url
            method := overlay ((env.get? "CHECK_HTTP_METHOD").map upperAscii) "GET"
            timeoutSecs := overlay (Variable.probeTimeout.value? env) 10
            expectedStatus := overlay (Variable.probeStatus.value? env) 200 } ::
              c.endpoints.checks.tail) ∧
      (env.get? "CHECK_HTTP_URL" = none → (c.overriddenBy env).endpoints = c.endpoints) :=
  ⟨overriddenBy_overriddenBy c env, Setting.exists_of_mem_ownVariables,
    fun s hs => Setting.wins_of_mem s hs c env, fun _ h => checks_overriddenBy_of_address h c,
    fun h => endpoints_overriddenBy_of_no_address h c⟩

/-- A file has two checks and a mail section, and the environment another port and a check of its
own: nothing is left of the first check, and the second one stays. -/
theorem environment_wins_over_file :
    let file : MonitorConfig :=
      { MonitorConfig.initial with
        endpoints := { EndpointChecks.initial with
          checks := [⟨"api", "https://a.example.com", "POST", 3, 204⟩,
            .initial "shop" "https://shop.example.com"] }
        alerting := { AlertingConfig.initial with
          email := some { EmailConfig.initial with port := 25 } } }
    let env : Environment := .ofEntries
      [("MONIC_SMTP_PORT", " 465 "), ("MONIC_CHECK_HTTP_URL", "https://b.example.com"),
        ("MONIC_CHECK_HTTP_METHOD", "head")]
    env.get? "SMTP_PORT" = some " 465 " ∧
      env.get? "CHECK_HTTP_URL" = some "https://b.example.com" ∧
      ((file.overriddenBy env).alerting.email.bind fun e => some e.port) = some 465 ∧
      (file.overriddenBy env).endpoints.checks =
        [⟨"http-check", "https://b.example.com", "HEAD", 10, 200⟩,
          .initial "shop" "https://shop.example.com"] ∧
      (file.overriddenBy env).overriddenBy env = file.overriddenBy env := by
  intro file env
  have hport : env.get? "SMTP_PORT" = some " 465 " := by decide +kernel
  have hread : Variable.smtpPort.read (trim " 465 ") = some 465 := by decide +kernel
  have hurl : env.get? "CHECK_HTTP_URL" = some "https://b.example.com" := by decide +kernel
  have hmem : (Setting.ofVariable .smtpPort (·.port)).within (·.alerting.email) ∈ Setting.all := by
    simp [Setting.all, Setting.email]
  obtain ⟨htwice, _, hwins, haddress, _⟩ := environment_wins file env
  refine ⟨hport, hurl, hwins _ hmem _ _ hport hread, ?_, htwice⟩
  rw [haddress _ hurl]
  decide +kernel

/-- **A timeout without an address does nothing**, even if it can be read: the check of the file
keeps its own. -/
theorem timeout_without_address :
    let file : MonitorConfig :=
      { MonitorConfig.initial with
        endpoints := { EndpointChecks.initial with
          checks := [.initial "http-check" "https://example.com"] } }
    let env : Environment := .ofEntries [("MONIC_CHECK_HTTP_TIMEOUT", "5")]
    Variable.probeTimeout.value? env = some 5 ∧
      (file.overriddenBy env).endpoints.checks.map (·.timeoutSecs) = [10] := by
  decide +kernel

end MonitorConfig

end HostWatch
