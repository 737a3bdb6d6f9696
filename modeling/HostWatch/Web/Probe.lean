import HostWatch.Config.Basic
import HostWatch.Fault
import HostWatch.Sample.Endpoint
import HostWatch.Web.Basic
set_option autoImplicit false

/-!
# Web: probing an endpoint

A probe makes the request of its check and looks at the status of the answer alone.  It
fails when no answer comes, when the answer breaks off, and when the status is not the
expected one.
-/

namespace HostWatch

open HostWatch.Text
open HostWatch.Time (Instant)

/-- The characters of a method's name. -/
def isMethodChar (c : Char) : Bool := c.isAlphanum || "!#$%&'*+-.^_`|~".toList.contains c

namespace EndpointCheck

/-- The request of a check; its method is written in capitals. -/
def request (c : EndpointCheck) : Except Fault WebRequest :=
  let method := upperAscii c.method
  if method.isEmpty || !method.toList.all isMethodChar then
    .error (.probe ("invalid HTTP method: " ++ c.method))
  else
    .ok ⟨method, c.url, [("user-agent", "Monic-Monitor/1.0"), ("accept", "*/*")], .empty⟩

/-- What a reply says about an endpoint: the status that counts, and what is wrong. -/
def judge (c : EndpointCheck) : WebReply → Option UInt16 × Option String
  | .failed reason => (none, some ("request failed: " ++ reason))
  | .broken _ reason => (none, some ("failed to read response body: " ++ reason))
  | .answered status =>
    (some status,
      if status = c.expectedStatus then none
      else some ("unexpected status code: " ++ status.toNat.repr ++ " (expected: "
        ++ c.expectedStatus.toNat.repr ++ ")"))

/-- The result of a probe at `time` that took a number of milliseconds. -/
def result (c : EndpointCheck) (reply : WebReply) (millis : UInt64) (time : Instant) :
    EndpointResult :=
  let (status, error) := c.judge reply
  ⟨c.name, c.url, status, millis, error.isNone, error, time⟩

end EndpointCheck

end HostWatch
