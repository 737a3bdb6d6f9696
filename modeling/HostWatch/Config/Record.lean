import HostWatch.Config.Basic
set_option autoImplicit false

/-!
# Configuration: the record form

A configuration is read from a record in which everything but the name and address
of an endpoint check may be left out, and written back without its secrets: the mail
password, the Mailgun key, the Telegram token and the password of the server.

For a field that is left out a value stands in that is named here, next to the field.
-/

namespace HostWatch

open HostWatch.Json (Format Record)

/-! ## Reading -/

/-- Resource checks from a record. -/
def ResourceChecks.ofJson? (format : Format) (v : Json) : Option ResourceChecks := do
  let r ← Record.ofJson? format
    ["interval_secs", "cpu_threshold", "memory_threshold", "disk_threshold", "disk_paths"] v
  return {
    intervalSecs := ← r.withDefault "interval_secs" Json.uint64? 60
    cpuThreshold := ← r.withDefault "cpu_threshold" Json.float? 80.0
    memoryThreshold := ← r.withDefault "memory_threshold" Json.float? 80.0
    diskThreshold := ← r.withDefault "disk_threshold" Json.float? 90.0
    diskPaths := ← r.withDefault "disk_paths" (Json.list? Json.text?) ["/"] }

/-- An endpoint check from a record. -/
def EndpointCheck.ofJson? (format : Format) (v : Json) : Option EndpointCheck := do
  let r ← Record.ofJson? format ["name", "url", "method", "timeout_secs", "expected_status"] v
  let name ← r.required "name" Json.text?
  let url ← r.required "url" Json.text?
  return {
    name, url
    method := ← r.withDefault "method" Json.text? "GET"
    timeoutSecs := ← r.withDefault "timeout_secs" Json.uint64? 10
    expectedStatus := ← r.withDefault "expected_status" Json.uint16? 200 }

/-- Endpoint checks from a record. -/
def EndpointChecks.ofJson? (format : Format) (v : Json) : Option EndpointChecks := do
  let r ← Record.ofJson? format ["interval_secs", "max_concurrent_probes", "checks"] v
  return {
    intervalSecs := ← r.withDefault "interval_secs" Json.uint64? 30
    maxConcurrentProbes := ← r.withDefault "max_concurrent_probes" Json.uint64? 8
    checks := ← r.withDefault "checks" (Json.list? (EndpointCheck.ofJson? format)) [] }

/-- Container checks from a record. -/
def ContainerChecks.ofJson? (format : Format) (v : Json) : Option ContainerChecks := do
  let r ← Record.ofJson? format ["enabled", "interval_secs", "names"] v
  return {
    enabled := ← r.withDefault "enabled" Json.bool? false
    intervalSecs := ← r.withDefault "interval_secs" Json.uint64? 60
    names := ← r.withDefault "names" (Json.list? Json.text?) [] }

/-- Mail settings from a record. -/
def EmailConfig.ofJson? (format : Format) (v : Json) : Option EmailConfig := do
  let r ← Record.ofJson? format
    ["smtp_host", "smtp_port", "username", "password", "from", "to", "use_tls"] v
  return {
    host := ← r.withDefault "smtp_host" Json.text? ""
    port := ← r.withDefault "smtp_port" Json.uint16? 0
    username := ← r.withDefault "username" Json.text? ""
    password := ← r.withDefault "password" Json.text? ""
    sender := ← r.withDefault "from" Json.text? ""
    recipients := ← r.withDefault "to" Json.text? ""
    useTls := ← r.withDefault "use_tls" Json.bool? false }

/-- Mailgun settings from a record. -/
def MailgunConfig.ofJson? (format : Format) (v : Json) : Option MailgunConfig := do
  let r ← Record.ofJson? format ["api_key", "domain", "from", "to", "base_url"] v
  return {
    apiKey := ← r.withDefault "api_key" Json.text? ""
    domain := ← r.withDefault "domain" Json.text? ""
    sender := ← r.withDefault "from" Json.text? ""
    recipients := ← r.withDefault "to" Json.text? ""
    baseUrl := ← r.withDefault "base_url" Json.text? "https://api.mailgun.net/v3" }

/-- Telegram settings from a record. -/
def TelegramConfig.ofJson? (format : Format) (v : Json) : Option TelegramConfig := do
  let r ← Record.ofJson? format ["bot_token", "chat_id", "api_base"] v
  return {
    botToken := ← r.withDefault "bot_token" Json.text? ""
    chatId := ← r.withDefault "chat_id" Json.text? ""
    apiBase := ← r.withDefault "api_base" Json.text? "https://api.telegram.org" }

/-- Alerting from a record. -/
def AlertingConfig.ofJson? (format : Format) (v : Json) : Option AlertingConfig := do
  let r ← Record.ofJson? format
    ["enabled", "levels", "cooldown_minutes", "dispatch_interval_secs", "email", "mailgun",
      "telegram"] v
  return {
    enabled := ← r.withDefault "enabled" Json.bool? false
    levels := ← r.withDefault "levels" (Json.list? (AlertLevel.ofJson? format)) []
    cooldownMinutes := ← r.withDefault "cooldown_minutes" Json.uint64? 0
    dispatchIntervalSecs := ← r.withDefault "dispatch_interval_secs" Json.uint64? 60
    email := ← r.withDefault "email" (Record.nullable (EmailConfig.ofJson? format)) none
    mailgun := ← r.withDefault "mailgun" (Record.nullable (MailgunConfig.ofJson? format)) none
    telegram := ← r.withDefault "telegram" (Record.nullable (TelegramConfig.ofJson? format)) none }

/-- Server settings from a record. -/
def StatsServerConfig.ofJson? (format : Format) (v : Json) : Option StatsServerConfig := do
  let r ← Record.ofJson? format ["bind", "port", "username", "password"] v
  return {
    bind := ← r.withDefault "bind" Json.text? "0.0.0.0"
    port := ← r.withDefault "port" Json.uint16? 8080
    username := ← r.withDefault "username" (Record.nullable Json.text?) none
    password := ← r.withDefault "password" (Record.nullable Json.text?) none }

/-- A configuration from a record. -/
def MonitorConfig.ofJson? (format : Format) (v : Json) : Option MonitorConfig := do
  let r ← Record.ofJson? format
    ["app_name", "history_capacity", "resources", "endpoints", "containers", "alerting",
      "http_server"] v
  return {
    appName := ← r.withDefault "app_name" Json.text? "Monic"
    historyCapacity := ← r.withDefault "history_capacity" Json.uint64? 100
    resources := ← r.withDefault "resources" (ResourceChecks.ofJson? format) .initial
    endpoints := ← r.withDefault "endpoints" (EndpointChecks.ofJson? format) .initial
    containers := ← r.withDefault "containers" (ContainerChecks.ofJson? format) .initial
    alerting := ← r.withDefault "alerting" (AlertingConfig.ofJson? format) .initial
    server := ← r.withDefault "http_server" (Record.nullable (StatsServerConfig.ofJson? format))
      none }

/-! ## Writing -/

/-- Resource checks as an object. -/
def ResourceChecks.toJson (c : ResourceChecks) : Json :=
  .obj [("interval_secs", .ofNat c.intervalSecs.toNat), ("cpu_threshold", .ofFloat c.cpuThreshold),
    ("memory_threshold", .ofFloat c.memoryThreshold),
    ("disk_threshold", .ofFloat c.diskThreshold), ("disk_paths", .ofStrings c.diskPaths)]

/-- An endpoint check as an object. -/
def EndpointCheck.toJson (c : EndpointCheck) : Json :=
  .obj [("name", .str c.name), ("url", .str c.url), ("method", .str c.method),
    ("timeout_secs", .ofNat c.timeoutSecs.toNat),
    ("expected_status", .ofNat c.expectedStatus.toNat)]

/-- Endpoint checks as an object. -/
def EndpointChecks.toJson (c : EndpointChecks) : Json :=
  .obj [("interval_secs", .ofNat c.intervalSecs.toNat),
    ("max_concurrent_probes", .ofNat c.maxConcurrentProbes.toNat),
    ("checks", .arr (c.checks.map EndpointCheck.toJson))]

/-- Container checks as an object. -/
def ContainerChecks.toJson (c : ContainerChecks) : Json :=
  .obj [("enabled", .bool c.enabled), ("interval_secs", .ofNat c.intervalSecs.toNat),
    ("names", .ofStrings c.names)]

/-- Mail settings as an object, without the password. -/
def EmailConfig.toJson (c : EmailConfig) : Json :=
  .obj [("smtp_host", .str c.host), ("smtp_port", .ofNat c.port.toNat),
    ("username", .str c.username), ("from", .str c.sender), ("to", .str c.recipients),
    ("use_tls", .bool c.useTls)]

/-- Mailgun settings as an object, without the key. -/
def MailgunConfig.toJson (c : MailgunConfig) : Json :=
  .obj [("domain", .str c.domain), ("from", .str c.sender), ("to", .str c.recipients),
    ("base_url", .str c.baseUrl)]

/-- Telegram settings as an object, without the token. -/
def TelegramConfig.toJson (c : TelegramConfig) : Json :=
  .obj [("chat_id", .str c.chatId), ("api_base", .str c.apiBase)]

/-- Alerting as an object. -/
def AlertingConfig.toJson (c : AlertingConfig) : Json :=
  .obj [("enabled", .bool c.enabled), ("levels", .arr (c.levels.map AlertLevel.toJson)),
    ("cooldown_minutes", .ofNat c.cooldownMinutes.toNat),
    ("dispatch_interval_secs", .ofNat c.dispatchIntervalSecs.toNat),
    ("email", .ofOption EmailConfig.toJson c.email),
    ("mailgun", .ofOption MailgunConfig.toJson c.mailgun),
    ("telegram", .ofOption TelegramConfig.toJson c.telegram)]

/-- Server settings as an object, without the password. -/
def StatsServerConfig.toJson (c : StatsServerConfig) : Json :=
  .obj [("bind", .str c.bind), ("port", .ofNat c.port.toNat),
    ("username", .ofOption .str c.username)]

/-- A configuration as an object, without its secrets. -/
def MonitorConfig.toJson (c : MonitorConfig) : Json :=
  .obj [("app_name", .str c.appName), ("history_capacity", .ofNat c.historyCapacity.toNat),
    ("resources", c.resources.toJson), ("endpoints", c.endpoints.toJson),
    ("containers", c.containers.toJson), ("alerting", c.alerting.toJson),
    ("http_server", .ofOption StatsServerConfig.toJson c.server)]

end HostWatch
