import HostWatch.Json.Basic
set_option autoImplicit false

/-!
# Web: requests and replies

The requests that the monitor makes and what can come back, apart from how they travel.
-/

namespace HostWatch

/-- What a request carries. -/
inductive WebBody where
  | empty
  | form (fields : List (String × String))
  | json (v : Json)
  deriving Inhabited

/-- A request to a web server. -/
structure WebRequest where
  method : String
  url : String
  headers : List (String × String)
  body : WebBody
  deriving Inhabited

/-- What comes back. -/
inductive WebReply where
  /-- nothing came back -/
  | failed (reason : String)
  /-- an answer came back, but not all of what it announced -/
  | broken (status : UInt16) (reason : String)
  /-- an answer came back -/
  | answered (status : UInt16)
  deriving DecidableEq, Repr, Inhabited

end HostWatch
