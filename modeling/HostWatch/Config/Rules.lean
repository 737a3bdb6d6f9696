import HostWatch.Config.Basic
import HostWatch.Fault
import HostWatch.Number.Shortest
set_option autoImplicit false

/-!
# Configuration: the rules

A configuration is accepted when it breaks no rule; of several broken rules the
first one is reported.  Each section checks itself in the order of its settings, and
the sections are checked in the order of the configuration.
-/

namespace HostWatch

open HostWatch.Text

/-- A rule holds, or the fault is reported. -/
def require (holds : Bool) (fault : Fault) : Except Fault Unit :=
  if holds then .ok () else .error fault

theorem require_eq_ok_iff {holds : Bool} {fault : Fault} :
    require holds fault = .ok () ↔ holds = true := by
  cases holds <;> simp [require]

/-! ## Endpoint checks -/

/-- The methods that a probe may use. -/
def probeMethods : List String := ["GET", "POST", "PUT", "DELETE", "HEAD", "OPTIONS", "PATCH"]

namespace EndpointCheck

/-- A fault of one endpoint check. -/
def fault (c : EndpointCheck) (reason : String) : Fault :=
  .invalidConfig ("endpoint '" ++ c.name ++ "': " ++ reason)

/-- The rules for an endpoint check. -/
def validate (c : EndpointCheck) : Except Fault Unit := do
  require (!isAllBlank c.name) (.invalidConfig "endpoint name cannot be empty")
  require (!c.url.isEmpty) (c.fault "URL cannot be empty")
  require (startsWith c.url "http://" || startsWith c.url "https://")
    (c.fault "URL must start with http:// or https://")
  require (!c.method.isEmpty) (c.fault "HTTP method cannot be empty")
  require (probeMethods.contains (upperAscii c.method))
    (c.fault ("invalid HTTP method: " ++ c.method))
  require (c.timeoutSecs != 0) (c.fault "timeout must be positive")
  require (100 ≤ c.expectedStatus && c.expectedStatus ≤ 599)
    (c.fault "expected status code must be between 100 and 599")

/-- Every check keeps the rules, and no check has the name of an earlier one;
`seen` are the names of the checks before. -/
def validateAll (seen : List String) : List EndpointCheck → Except Fault Unit
  | [] => .ok ()
  | c :: cs => do
    c.validate
    require (!seen.contains c.name) (.invalidConfig ("duplicate endpoint name: " ++ c.name))
    validateAll (c.name :: seen) cs

end EndpointCheck

/-! ## Channels -/

/-- A fault of one configured channel. -/
def missingSetting (channel reason : String) : Fault :=
  .channelNotConfigured (channel ++ ": " ++ reason)

/-- The rules for mail. -/
def EmailConfig.validate (c : EmailConfig) : Except Fault Unit := do
  require (!c.host.isEmpty) (missingSetting "email" "SMTP host is required")
  require (c.port != 0) (missingSetting "email" "SMTP port must be positive")
  require (!c.sender.isEmpty) (missingSetting "email" "from address is required")
  require (!c.recipients.isEmpty) (missingSetting "email" "to address is required")

/-- The rules for Mailgun. -/
def MailgunConfig.validate (c : MailgunConfig) : Except Fault Unit := do
  require (!c.apiKey.isEmpty) (missingSetting "mailgun" "API key is required")
  require (!c.domain.isEmpty) (missingSetting "mailgun" "domain is required")
  require (!c.sender.isEmpty) (missingSetting "mailgun" "from address is required")
  require (!c.recipients.isEmpty) (missingSetting "mailgun" "to address is required")

/-- The rules for Telegram. -/
def TelegramConfig.validate (c : TelegramConfig) : Except Fault Unit := do
  require (!c.botToken.isEmpty) (missingSetting "telegram" "bot token is required")
  require (!c.chatId.isEmpty) (missingSetting "telegram" "chat ID is required")

/-- A section that is not given breaks no rule. -/
def validateSection {α : Type} (validate : α → Except Fault Unit) : Option α → Except Fault Unit
  | none => .ok ()
  | some c => validate c

/-- The rules for alerting; while it is disabled there are none. -/
def AlertingConfig.validate (a : AlertingConfig) : Except Fault Unit :=
  if a.enabled then do
    validateSection EmailConfig.validate a.email
    validateSection MailgunConfig.validate a.mailgun
    validateSection TelegramConfig.validate a.telegram
    require a.hasChannel
      (.invalidConfig "alerting is enabled but no alerting methods are configured")
  else .ok ()

/-! ## The whole configuration -/

/-- A user name comes with a password that is not empty. -/
def StatsServerConfig.validate (s : StatsServerConfig) : Except Fault Unit :=
  require (s.username.isNone || s.password.any (! ·.isEmpty))
    (.invalidConfig "stats server username requires a password")

/-- A threshold is a number from 0 to 100. -/
def validateThreshold (name : String) (value : Float) : Except Fault Unit :=
  require (0.0 ≤ value && value ≤ 100.0)
    (.invalidConfig (name ++ " threshold must be between 0 and 100, got "
      ++ Number.floatText value))

/-- An interval is not zero. -/
def validateInterval (name : String) (secs : UInt64) : Except Fault Unit :=
  require (secs != 0) (.invalidConfig (name ++ " interval must be positive"))

/-- The rules for a configuration. -/
def MonitorConfig.validate (c : MonitorConfig) : Except Fault Unit := do
  validateThreshold "cpu" c.resources.cpuThreshold
  validateThreshold "memory" c.resources.memoryThreshold
  validateThreshold "disk" c.resources.diskThreshold
  validateInterval "resources" c.resources.intervalSecs
  validateInterval "endpoints" c.endpoints.intervalSecs
  validateInterval "containers" c.containers.intervalSecs
  validateInterval "dispatch" c.alerting.dispatchIntervalSecs
  EndpointCheck.validateAll [] c.endpoints.checks
  c.alerting.validate
  validateSection StatsServerConfig.validate c.server

end HostWatch
