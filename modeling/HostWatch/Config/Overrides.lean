import HostWatch.Config.Basic
import HostWatch.Config.Environment
set_option autoImplicit false

/-!
# Configuration: overrides from the environment

What the environment says is first read into `Overrides`, section by section, and then
laid over a configuration.  A setting that is not overridden keeps its value.  The
sections for Telegram, Mailgun, mail and the statistics server come into being when one
of their variables is set, and a variable of a channel also switches alerting on; a
container variable switches container checks on.

The variables for an endpoint check count only when its address is set, and then
describe the first check alone, from the built-in values on.
-/

namespace HostWatch

open HostWatch.Text

/-- The new value of a setting, or the old one. -/
def overlay {α : Type} (new : Option α) (old : α) : α := new.getD old

/-! ## The variables that are read -/

namespace Variable

def resourceInterval : Variable UInt64 := word64 "CHECK_SYSTEM_INTERVAL"
def cpuThreshold : Variable Float := number "CPU_THRESHOLD"
def memoryThreshold : Variable Float := number "MEMORY_THRESHOLD"
def diskThreshold : Variable Float := number "DISK_THRESHOLD"
def probeTimeout : Variable UInt64 := word64 "CHECK_HTTP_TIMEOUT"
def probeStatus : Variable UInt16 := word16 "CHECK_HTTP_EXPECTED_STATUS"
def containerInterval : Variable UInt64 := word64 "CHECK_DOCKER_INTERVAL"
def cooldown : Variable UInt64 := word64 "ALERTING_COOLDOWN"
def smtpPort : Variable UInt16 := word16 "SMTP_PORT"
def smtpTls : Variable Bool := switch "SMTP_USE_TLS"
def serverPort : Variable UInt16 := word16 "HTTP_SERVER_PORT"

end Variable

/-- The variables of the container checks. -/
def containerVariables : List String := ["CHECK_DOCKER_INTERVAL", "CHECK_DOCKER_CONTAINERS"]

/-- The variables of the Telegram section. -/
def telegramVariables : List String := ["TELEGRAM_BOT_TOKEN", "TELEGRAM_CHAT_ID"]

/-- The variables of the Mailgun section. -/
def mailgunVariables : List String :=
  ["MAILGUN_API_KEY", "MAILGUN_DOMAIN", "MAILGUN_FROM", "MAILGUN_TO"]

/-- The variables of the mail section. -/
def smtpVariables : List String :=
  ["SMTP_HOST", "SMTP_PORT", "SMTP_USERNAME", "SMTP_PASSWORD", "SMTP_FROM", "SMTP_TO",
    "SMTP_USE_TLS"]

/-- The variables of the statistics server. -/
def serverVariables : List String :=
  ["HTTP_SERVER_PORT", "HTTP_SERVER_USERNAME", "HTTP_SERVER_PASSWORD"]

/-! ## Section by section -/

/-- Resource checks under an environment. -/
def ResourceChecks.overriddenBy (c : ResourceChecks) (env : Environment) : ResourceChecks where
  intervalSecs := overlay (Variable.resourceInterval.value? env) c.intervalSecs
  cpuThreshold := overlay (Variable.cpuThreshold.value? env) c.cpuThreshold
  memoryThreshold := overlay (Variable.memoryThreshold.value? env) c.memoryThreshold
  diskThreshold := overlay (Variable.diskThreshold.value? env) c.diskThreshold
  diskPaths := overlay (env.list? "DISK_PATHS") c.diskPaths

/-- The endpoint check that an environment describes, when it gives an address. -/
def EndpointCheck.ofEnvironment? (env : Environment) : Option EndpointCheck :=
  (env.get? "CHECK_HTTP_URL").map fun url =>
    let d := EndpointCheck.initial "http-check" url
    { d with
      method := overlay ((env.get? "CHECK_HTTP_METHOD").map upperAscii) d.method
      timeoutSecs := overlay (Variable.probeTimeout.value? env) d.timeoutSecs
      expectedStatus := overlay (Variable.probeStatus.value? env) d.expectedStatus }

/-- Endpoint checks under an environment: the check it describes takes the first place. -/
def EndpointChecks.overriddenBy (c : EndpointChecks) (env : Environment) : EndpointChecks :=
  match EndpointCheck.ofEnvironment? env with
  | none => c
  | some check => { c with checks := check :: c.checks.tail }

/-- Container checks under an environment. -/
def ContainerChecks.overriddenBy (c : ContainerChecks) (env : Environment) : ContainerChecks where
  enabled := c.enabled || env.anySet containerVariables
  intervalSecs := overlay (Variable.containerInterval.value? env) c.intervalSecs
  names := overlay (env.list? "CHECK_DOCKER_CONTAINERS") c.names

/-- The Telegram section under an environment. -/
def TelegramConfig.overriddenBy (section? : Option TelegramConfig) (env : Environment) :
    Option TelegramConfig :=
  if env.anySet telegramVariables then
    let c := section?.getD .initial
    some { c with
      botToken := overlay (env.get? "TELEGRAM_BOT_TOKEN") c.botToken
      chatId := overlay (env.get? "TELEGRAM_CHAT_ID") c.chatId }
  else section?

/-- The Mailgun section under an environment. -/
def MailgunConfig.overriddenBy (section? : Option MailgunConfig) (env : Environment) :
    Option MailgunConfig :=
  if env.anySet mailgunVariables then
    let c := section?.getD .initial
    some { c with
      apiKey := overlay (env.get? "MAILGUN_API_KEY") c.apiKey
      domain := overlay (env.get? "MAILGUN_DOMAIN") c.domain
      sender := overlay (env.get? "MAILGUN_FROM") c.sender
      recipients := overlay (env.get? "MAILGUN_TO") c.recipients }
  else section?

/-- The mail section under an environment. -/
def EmailConfig.overriddenBy (section? : Option EmailConfig) (env : Environment) :
    Option EmailConfig :=
  if env.anySet smtpVariables then
    let c := section?.getD .initial
    some {
      host := overlay (env.get? "SMTP_HOST") c.host
      port := overlay (Variable.smtpPort.value? env) c.port
      username := overlay (env.get? "SMTP_USERNAME") c.username
      password := overlay (env.get? "SMTP_PASSWORD") c.password
      sender := overlay (env.get? "SMTP_FROM") c.sender
      recipients := overlay (env.get? "SMTP_TO") c.recipients
      useTls := overlay (Variable.smtpTls.value? env) c.useTls }
  else section?

/-- The levels that a variable names; the entries that name none are left out. -/
def levelsOf (names : List String) : List AlertLevel :=
  names.filterMap fun n => (AlertLevel.ofText n).toOption

/-- Alerting under an environment. -/
def AlertingConfig.overriddenBy (c : AlertingConfig) (env : Environment) : AlertingConfig where
  enabled := c.enabled || env.anySet (telegramVariables ++ mailgunVariables ++ smtpVariables)
  levels := overlay ((env.list? "ALERTING_LEVELS").map levelsOf) c.levels
  cooldownMinutes := overlay (Variable.cooldown.value? env) c.cooldownMinutes
  dispatchIntervalSecs := c.dispatchIntervalSecs
  email := EmailConfig.overriddenBy c.email env
  mailgun := MailgunConfig.overriddenBy c.mailgun env
  telegram := TelegramConfig.overriddenBy c.telegram env

/-- The statistics server under an environment. -/
def StatsServerConfig.overriddenBy (section? : Option StatsServerConfig) (env : Environment) :
    Option StatsServerConfig :=
  if env.anySet serverVariables then
    let c := section?.getD .initial
    some { c with
      port := overlay (Variable.serverPort.value? env) c.port
      username := (env.get? "HTTP_SERVER_USERNAME").or c.username
      password := (env.get? "HTTP_SERVER_PASSWORD").or c.password }
  else section?

/-- A configuration under an environment. -/
def MonitorConfig.overriddenBy (c : MonitorConfig) (env : Environment) : MonitorConfig where
  appName := overlay (env.get? "APP_NAME") c.appName
  historyCapacity := c.historyCapacity
  resources := c.resources.overriddenBy env
  endpoints := c.endpoints.overriddenBy env
  containers := c.containers.overriddenBy env
  alerting := c.alerting.overriddenBy env
  server := StatsServerConfig.overriddenBy c.server env

/-! ## What the log says -/

/-- The complaint about an entry that names no level. -/
def levelComplaint? (name : String) : Option LogLine :=
  match AlertLevel.ofText name with
  | .ok _ => none
  | .error reason => some (.plain .warn
      ("Ignoring alert level in " ++ variableFront ++ "ALERTING_LEVELS: " ++ reason))

/-- The log lines for everything in an environment that is ignored. -/
def Environment.complaints (env : Environment) : List LogLine :=
  let probe :=
    if (env.get? "CHECK_HTTP_URL").isSome then
      [Variable.probeTimeout.complaint? env, Variable.probeStatus.complaint? env]
    else []
  ([Variable.resourceInterval.complaint? env, Variable.cpuThreshold.complaint? env,
      Variable.memoryThreshold.complaint? env, Variable.diskThreshold.complaint? env]
    ++ probe ++ [Variable.containerInterval.complaint? env]).filterMap id
  ++ ((env.list? "ALERTING_LEVELS").getD []).filterMap levelComplaint?
  ++ [Variable.cooldown.complaint? env, Variable.smtpPort.complaint? env,
      Variable.smtpTls.complaint? env, Variable.serverPort.complaint? env].filterMap id

end HostWatch
