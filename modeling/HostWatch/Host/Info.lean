import HostWatch.Json.Basic
import HostWatch.Log
import HostWatch.Number.Decimal
set_option autoImplicit false

/-!
# Host: what does not change

The facts about a host that are found once, at the start.
-/

namespace HostWatch

/-- The version of the monitor. -/
def agentVersion : String := "0.1.0"

/-- Facts about the host. -/
structure HostInfo where
  hostname : String
  os : String
  osVersion : Option String
  architecture : String
  cpuCount : Nat
  totalMemoryBytes : UInt64
  agentVersion : String
  deriving DecidableEq, Repr, Inhabited

namespace HostInfo

/-- A Linux host on the usual processor. -/
def discovered (hostname : String) (osVersion : Option String) (cpuCount : Nat)
    (totalMemoryBytes : UInt64) : HostInfo :=
  ⟨hostname, "linux", osVersion, "x86_64", cpuCount, totalMemoryBytes, HostWatch.agentVersion⟩

/-- The facts as an object. -/
def toJson (h : HostInfo) : Json :=
  .obj [("hostname", .str h.hostname), ("os", .str h.os),
    ("os_version", .ofOption .str h.osVersion), ("architecture", .str h.architecture),
    ("cpu_count", .ofNat h.cpuCount), ("total_memory_bytes", .ofNat h.totalMemoryBytes.toNat),
    ("agent_version", .str h.agentVersion)]

/-- The line that reports the facts. -/
def log (h : HostInfo) : LogLine :=
  .plain .info ("Discovery complete - Hostname: " ++ h.hostname ++ ", OS: " ++ h.os ++ ", Arch: "
    ++ h.architecture ++ ", CPUs: " ++ Number.natText h.cpuCount)

end HostInfo

end HostWatch
