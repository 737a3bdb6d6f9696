import HostWatch.Config.Basic
import HostWatch.Fault
import HostWatch.Log
import HostWatch.Notify.Mailbox
import HostWatch.Text.Quoted
set_option autoImplicit false

/-!
# Notices: the transports

A transport is built for each configured section, mail first, then Mailgun, then
Telegram; while alerting is disabled there is none.  Addresses are read here, so that a
bad one is found before the first alert.  What a transport connects with is made here too,
and may be refused (`Connectors`).
-/

namespace HostWatch

open HostWatch.Text

/-- A way to deliver notices. -/
inductive Transport where
  | email (sender : Mailbox) (recipients : List Mailbox) (config : EmailConfig)
  | mailgun (config : MailgunConfig)
  | telegram (config : TelegramConfig)
  deriving DecidableEq, Inhabited

/-- The name of a transport. -/
def Transport.name : Transport → String
  | email _ _ _ => "email"
  | mailgun _ => "mailgun"
  | telegram _ => "telegram"

/-- The mailboxes of a list of addresses. -/
def readMailboxes : List String → Except Fault (List Mailbox)
  | [] => .ok []
  | a :: rest =>
    match Mailbox.ofText a with
    | .error f =>
      .error (.channelNotConfigured ("email: invalid address '" ++ a ++ "': " ++ f.message))
    | .ok m => (readMailboxes rest).map (m :: ·)

/-- What transports connect with; each may be refused for some reason. -/
structure Connectors where
  /-- the client for requests over the web, which a channel asks for -/
  webClient : String → Except String Unit
  /-- the encrypted connection to a mail server -/
  mailRelay : String → Except String Unit

/-- Connectors that are always to be had. -/
def Connectors.ready : Connectors := ⟨fun _ => .ok (), fun _ => .ok ()⟩

/-- The transport for mail: the sender and at least one recipient can be read. -/
def EmailConfig.transportOver (k : Connectors) (c : EmailConfig) : Except Fault Transport :=
  match Mailbox.ofText c.sender with
  | .error f => .error (.channelNotConfigured ("email: invalid from address: " ++ f.message))
  | .ok sender =>
    match readMailboxes (commaList c.recipients) with
    | .error f => .error f
    | .ok [] => .error (.channelNotConfigured "email: to address is required")
    | .ok recipients =>
      match if c.useTls then k.mailRelay c.host else .ok () with
      | .error reason => .error (.channelNotConfigured ("email: invalid SMTP relay: " ++ reason))
      | .ok () => .ok (.email sender recipients c)

/-- A transport over the web. -/
def Transport.overWeb (k : Connectors) (t : Transport) : Except Fault Transport :=
  match k.webClient t.name with
  | .error reason => .error (.channel t.name ("failed to build HTTP client: " ++ reason))
  | .ok () => .ok t

/-- The transport for mail, with connectors that are to be had. -/
def EmailConfig.transport (c : EmailConfig) : Except Fault Transport := c.transportOver .ready

namespace AlertingConfig

/-- The transports of the configured sections, in their order. -/
def transportsOver (k : Connectors) (a : AlertingConfig) : Except Fault (List Transport) :=
  if !a.enabled then .ok []
  else do
    let email ← a.email.toList.mapM (EmailConfig.transportOver k)
    let mailgun ← (a.mailgun.toList.map Transport.mailgun).mapM (Transport.overWeb k)
    let telegram ← (a.telegram.toList.map Transport.telegram).mapM (Transport.overWeb k)
    return email ++ mailgun ++ telegram

/-- The transports, with connectors that are to be had. -/
def transports (a : AlertingConfig) : Except Fault (List Transport) := a.transportsOver .ready

/-- What the log says when the transports are built. -/
def transportLogs (a : AlertingConfig) : List LogLine :=
  if !a.enabled then [.plain .info "Alerting disabled, no channels configured"]
  else
    match a.transports with
    | .error _ => []
    | .ok ts =>
      [⟨.info, "Alert channels configured", [("channels", quotedList (ts.map Transport.name))]⟩]

end AlertingConfig

end HostWatch
