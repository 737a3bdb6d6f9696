import HostWatch.Alert.Notice
import HostWatch.Config.Basic
import HostWatch.Fault
import HostWatch.Text.Base64
import HostWatch.Web.Basic
set_option autoImplicit false

/-!
# Notices: delivery over the web

Mailgun gets a form with the parts of a mail, Telegram a message in HTML.  An alert is
delivered when the answer has a status from 200 to 299.  A notice whose times have no long
form has no request.
-/

namespace HostWatch

open HostWatch.Text
open HostWatch.Time (Instant)

/-- An address without the slashes at its end. -/
def withoutSlashes (s : String) : String :=
  String.ofList (s.toList.reverse.dropWhile (· = '/')).reverse

/-- The header that carries a user name and a password. -/
def basicAuthorization (username password : String) : String × String :=
  ("authorization",
    "Basic " ++ String.ofList (encodeBase64 (username ++ ":" ++ password).toUTF8.toList))

/-- The request that hands an alert to Mailgun at `now`. -/
def MailgunConfig.request? (c : MailgunConfig) (appName : String) (e : AlertEvent)
    (now : Instant) : Option WebRequest :=
  (e.plainBody? appName now).map fun text =>
    { method := "POST"
      url := withoutSlashes c.baseUrl ++ "/" ++ c.domain ++ "/messages"
      headers := [basicAuthorization "api" c.apiKey,
        ("content-type", "application/x-www-form-urlencoded"), ("accept", "*/*")]
      body := .form [("from", c.sender), ("to", c.recipients), ("subject", e.subject appName),
        ("text", text)] }

/-- The request that hands an alert to Telegram. -/
def TelegramConfig.request? (c : TelegramConfig) (appName : String) (e : AlertEvent) :
    Option WebRequest :=
  (e.htmlMessage? appName).map fun text =>
    { method := "POST"
      url := withoutSlashes c.apiBase ++ "/bot" ++ c.botToken ++ "/sendMessage"
      headers := [("content-type", "application/json"), ("accept", "*/*")]
      body := .json (.obj [("chat_id", .str c.chatId), ("text", .str text),
        ("parse_mode", .str "HTML")]) }

/-- Whether a reply says that an alert was delivered; `service` is the service in words. -/
def delivered (channel service : String) : WebReply → Except Fault Unit
  | .failed reason => .error (.channel channel (service ++ " API request failed: " ++ reason))
  | .broken status _
  | .answered status =>
    if 200 ≤ status && status < 300 then .ok ()
    else .error (.channel channel (service ++ " API returned status " ++ status.toNat.repr))

/-- Whether Mailgun took an alert. -/
def MailgunConfig.outcome (reply : WebReply) : Except Fault Unit :=
  delivered "mailgun" "Mailgun" reply

/-- Whether Telegram took an alert. -/
def TelegramConfig.outcome (reply : WebReply) : Except Fault Unit :=
  delivered "telegram" "Telegram" reply

end HostWatch
