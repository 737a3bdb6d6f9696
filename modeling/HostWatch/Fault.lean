set_option autoImplicit false

/-!
# What can go wrong

The causes of failure, each with the text that people read.  A failed dispatch
carries every single delivery that failed.
-/

namespace HostWatch

/-- One channel that did not deliver one alert. -/
structure DeliveryFailure where
  channel : String
  alertKey : String
  reason : String
  deriving DecidableEq, Repr, Inhabited

/-- The failure in one line. -/
def DeliveryFailure.text (f : DeliveryFailure) : String :=
  f.channel ++ "[" ++ f.alertKey ++ "]: " ++ f.reason

/-- Why the monitor or one of its collaborators failed. -/
inductive Fault where
  /-- the resources of the host could not be read -/
  | collection (reason : String)
  /-- an endpoint could not be probed at all -/
  | probe (reason : String)
  /-- the container runtime gave no answer -/
  | containers (reason : String)
  /-- one channel did not deliver -/
  | channel (name reason : String)
  /-- some deliveries of a dispatch failed -/
  | dispatch (failures : List DeliveryFailure)
  /-- the configuration breaks a rule -/
  | invalidConfig (reason : String)
  /-- a configured channel lacks a setting -/
  | channelNotConfigured (reason : String)
  deriving DecidableEq, Repr, Inhabited

namespace Fault

/-- The text of a fault. -/
def message : Fault → String
  | collection reason => "Failed to collect metrics: " ++ reason
  | probe reason => "Endpoint probe failed: " ++ reason
  | containers reason => "Failed to list containers: " ++ reason
  | channel _ reason => reason
  | dispatch failures =>
    "failed to send alerts: " ++ "; ".intercalate (failures.map DeliveryFailure.text)
  | invalidConfig reason => "Invalid configuration: " ++ reason
  | channelNotConfigured reason => "Alert channel not configured: " ++ reason

/-- The failed deliveries of a dispatch; other faults have none. -/
def failures : Fault → List DeliveryFailure
  | dispatch fs => fs
  | _ => []

end Fault

end HostWatch
