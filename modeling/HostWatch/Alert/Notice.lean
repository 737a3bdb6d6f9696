import HostWatch.Alert.Event
import HostWatch.Text.Uppercase
set_option autoImplicit false

/-!
# Alerts: the texts of a notice

The subject, the plain body of a mail and the message to a chat that shows HTML.  The
two longer texts show times in the long form, so that they exist for the years 0 to
9999 only.
-/

namespace HostWatch

open HostWatch.Time (Instant)

/-- The text with `written` in the place of every `c`. -/
def replaceChar (c : Char) (written s : String) : String :=
  String.ofList (s.toList.flatMap fun d => if d = c then written.toList else [d])

/-- The text with the three characters that HTML gives a meaning written as entities.  The
ampersand comes first, because every entity begins with one. -/
def escapeHtml (s : String) : String :=
  replaceChar '>' "&gt;" (replaceChar '<' "&lt;" (replaceChar '&' "&amp;" s))

namespace AlertEvent

/-- The level in capitals. -/
def levelCapitals (e : AlertEvent) : String := Text.upperAscii e.level.text

/-- The subject of a notice. -/
def subject (appName : String) (e : AlertEvent) : String :=
  "[" ++ appName ++ " Alert] " ++ e.levelCapitals ++ " - " ++ e.kind

/-- The body of a mail that is sent at `now`. -/
def plainBody? (appName : String) (e : AlertEvent) (now : Instant) : Option String := do
  let time ← e.time.longForm?
  let serverTime ← now.longForm?
  return Text.uppercase appName ++ " MONITORING ALERT\n"
    ++ "=====================\n\n"
    ++ "Alert Level: " ++ e.levelCapitals ++ "\n"
    ++ "Alert Type: " ++ e.kind ++ "\n"
    ++ "Message: " ++ e.message ++ "\n"
    ++ "Timestamp: " ++ time ++ "\n"
    ++ "Server Time: " ++ serverTime ++ "\n\n"
    ++ "This alert was generated by the " ++ appName ++ " monitoring service.\n"

/-- The message to a chat that shows HTML. -/
def htmlMessage? (appName : String) (e : AlertEvent) : Option String := do
  let time ← e.time.longForm?
  return "<b>" ++ escapeHtml (e.subject appName) ++ "</b>\n\nMessage: " ++ escapeHtml e.message
    ++ "\nTime: " ++ time

end AlertEvent

end HostWatch
