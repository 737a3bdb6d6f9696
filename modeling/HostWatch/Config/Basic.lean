import HostWatch.Alert.Event
set_option autoImplicit false

/-!
# Configuration: what can be set

The settings of the monitor and their built-in values.  Counts keep the width they
are configured in, so that nothing that a file can hold is cut.

The built-in values of mail settings are those of a section that starts from nothing; a
mail section that is read from a record does not start from them.
-/

namespace HostWatch

/-- The resources of the host: how often they are read, and the percentages from
which on a reading is bad. -/
structure ResourceChecks where
  intervalSecs : UInt64
  cpuThreshold : Float
  memoryThreshold : Float
  diskThreshold : Float
  diskPaths : List String
  deriving DecidableEq, Inhabited

/-- The built-in resource checks. -/
def ResourceChecks.initial : ResourceChecks := ⟨60, 80.0, 80.0, 90.0, ["/"]⟩

/-- One HTTP endpoint to probe. -/
structure EndpointCheck where
  name : String
  url : String
  method : String
  timeoutSecs : UInt64
  expectedStatus : UInt16
  deriving DecidableEq, Inhabited

/-- A check of which only the name and the address are chosen. -/
def EndpointCheck.initial (name url : String) : EndpointCheck := ⟨name, url, "GET", 10, 200⟩

/-- The endpoints: how often they are probed, and how many at a time. -/
structure EndpointChecks where
  intervalSecs : UInt64
  maxConcurrentProbes : UInt64
  checks : List EndpointCheck
  deriving DecidableEq, Inhabited

/-- The built-in endpoint checks. -/
def EndpointChecks.initial : EndpointChecks := ⟨30, 8, []⟩

/-- How many probes may be under way at a time; at least one. -/
def EndpointChecks.probeBound (e : EndpointChecks) : Nat := max e.maxConcurrentProbes.toNat 1

/-- The containers to watch; no names stand for all of them. -/
structure ContainerChecks where
  enabled : Bool
  intervalSecs : UInt64
  names : List String
  deriving DecidableEq, Inhabited

/-- The built-in container checks. -/
def ContainerChecks.initial : ContainerChecks := ⟨false, 60, []⟩

/-- Mail over SMTP. -/
structure EmailConfig where
  host : String
  port : UInt16
  username : String
  password : String
  sender : String
  recipients : String
  useTls : Bool
  deriving DecidableEq, Inhabited

/-- The mail section before anything is set. -/
def EmailConfig.initial : EmailConfig := ⟨"", 587, "", "", "", "", true⟩

/-- Mail over the Mailgun service. -/
structure MailgunConfig where
  apiKey : String
  domain : String
  sender : String
  recipients : String
  baseUrl : String
  deriving DecidableEq, Inhabited

/-- The Mailgun section before anything is set. -/
def MailgunConfig.initial : MailgunConfig := ⟨"", "", "", "", "https://api.mailgun.net/v3"⟩

/-- Messages to a Telegram chat. -/
structure TelegramConfig where
  botToken : String
  chatId : String
  apiBase : String
  deriving DecidableEq, Inhabited

/-- The Telegram section before anything is set. -/
def TelegramConfig.initial : TelegramConfig := ⟨"", "", "https://api.telegram.org"⟩

/-- What becomes of alerts; no levels stand for all of them. -/
structure AlertingConfig where
  enabled : Bool
  levels : List AlertLevel
  cooldownMinutes : UInt64
  dispatchIntervalSecs : UInt64
  email : Option EmailConfig
  mailgun : Option MailgunConfig
  telegram : Option TelegramConfig
  deriving DecidableEq, Inhabited

namespace AlertingConfig

/-- The built-in alerting. -/
def initial : AlertingConfig := ⟨false, [], 0, 60, none, none, none⟩

/-- How long an alert silences further ones of its kind, in seconds; at most the
largest number of 64 bits. -/
def cooldownSecs (a : AlertingConfig) : Nat := min (a.cooldownMinutes.toNat * 60) (UInt64.size - 1)

/-- Some way to deliver alerts is configured. -/
def hasChannel (a : AlertingConfig) : Bool :=
  a.email.isSome || a.mailgun.isSome || a.telegram.isSome

end AlertingConfig

/-- The server for statistics. -/
structure StatsServerConfig where
  bind : String
  port : UInt16
  username : Option String
  password : Option String
  deriving DecidableEq, Inhabited

/-- The built-in server settings. -/
def StatsServerConfig.initial : StatsServerConfig := ⟨"0.0.0.0", 8080, none, none⟩

/-- All settings of the monitor. -/
structure MonitorConfig where
  appName : String
  /-- how many entries each history keeps; zero stands for the built-in number -/
  historyCapacity : UInt64
  resources : ResourceChecks
  endpoints : EndpointChecks
  containers : ContainerChecks
  alerting : AlertingConfig
  server : Option StatsServerConfig
  deriving DecidableEq, Inhabited

/-- The built-in configuration. -/
def MonitorConfig.initial : MonitorConfig where
  appName := "Monic"
  historyCapacity := 100
  resources := .initial
  endpoints := .initial
  containers := .initial
  alerting := .initial
  server := none

end HostWatch
