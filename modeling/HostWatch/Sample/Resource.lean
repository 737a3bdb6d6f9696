import HostWatch.Json.Record
import HostWatch.Number.Places
import HostWatch.Time.Timestamp
set_option autoImplicit false

/-!
# Sample: resources of the host

One reading of the processor load, of the memory and of the file systems that the
configured paths lie on, with its JSON form.
-/

namespace HostWatch

open HostWatch.Time (Instant)

/-- Memory in bytes, and the used share in percent. -/
structure MemoryUsage where
  totalBytes : UInt64
  usedBytes : UInt64
  freeBytes : UInt64
  usedPercent : Float
  deriving DecidableEq, Inhabited

/-- The file system under a path, in bytes, and the used share in percent. -/
structure DiskUsage where
  path : String
  totalBytes : UInt64
  usedBytes : UInt64
  freeBytes : UInt64
  usedPercent : Float
  deriving DecidableEq, Inhabited

/-- One reading of the host's resources. -/
structure ResourceSample where
  time : Instant
  cpuPercent : Float
  memory : MemoryUsage
  disks : List DiskUsage
  deriving DecidableEq, Inhabited

/-- The disks in one line: `[/:41.5%, /var:7.0%]`. -/
def diskSummary (disks : List DiskUsage) : String :=
  "[" ++ ", ".intercalate (disks.map fun d => d.path ++ ":" ++ Number.fixedText 1 d.usedPercent ++ "%")
    ++ "]"

/-! ## JSON form -/

/-- A timestamp in JSON. -/
def Time.Instant.toJson (t : Instant) : Json := .str t.timestamp

/-- A timestamp from JSON. -/
def Time.Instant.ofJson? (v : Json) : Option Instant := v.text?.bind Instant.ofTimestamp?

namespace MemoryUsage

/-- The memory as an object. -/
def toJson (m : MemoryUsage) : Json :=
  .obj [("total_bytes", .ofNat m.totalBytes.toNat), ("used_bytes", .ofNat m.usedBytes.toNat),
    ("free_bytes", .ofNat m.freeBytes.toNat), ("used_percent", .ofFloat m.usedPercent)]

/-- Memory from a record. -/
def ofJson? (v : Json) : Option MemoryUsage := do
  let r ← Json.Record.ofJson? .json ["total_bytes", "used_bytes", "free_bytes", "used_percent"] v
  return {
    totalBytes := ← r.required "total_bytes" Json.uint64?
    usedBytes := ← r.required "used_bytes" Json.uint64?
    freeBytes := ← r.required "free_bytes" Json.uint64?
    usedPercent := ← r.required "used_percent" Json.float? }

end MemoryUsage

namespace DiskUsage

/-- A disk as an object. -/
def toJson (d : DiskUsage) : Json :=
  .obj [("path", .str d.path), ("total_bytes", .ofNat d.totalBytes.toNat),
    ("used_bytes", .ofNat d.usedBytes.toNat), ("free_bytes", .ofNat d.freeBytes.toNat),
    ("used_percent", .ofFloat d.usedPercent)]

/-- A disk from a record. -/
def ofJson? (v : Json) : Option DiskUsage := do
  let r ← Json.Record.ofJson? .json
    ["path", "total_bytes", "used_bytes", "free_bytes", "used_percent"] v
  return {
    path := ← r.required "path" Json.text?
    totalBytes := ← r.required "total_bytes" Json.uint64?
    usedBytes := ← r.required "used_bytes" Json.uint64?
    freeBytes := ← r.required "free_bytes" Json.uint64?
    usedPercent := ← r.required "used_percent" Json.float? }

end DiskUsage

namespace ResourceSample

/-- A sample as an object. -/
def toJson (s : ResourceSample) : Json :=
  .obj [("timestamp", s.time.toJson), ("cpu_percent", .ofFloat s.cpuPercent),
    ("memory", s.memory.toJson), ("disks", .arr (s.disks.map DiskUsage.toJson))]

/-- A sample from a record. -/
def ofJson? (v : Json) : Option ResourceSample := do
  let r ← Json.Record.ofJson? .json ["timestamp", "cpu_percent", "memory", "disks"] v
  return {
    time := ← r.required "timestamp" Instant.ofJson?
    cpuPercent := ← r.required "cpu_percent" Json.float?
    memory := ← r.required "memory" MemoryUsage.ofJson?
    disks := ← r.required "disks" (Json.list? DiskUsage.ofJson?) }

end ResourceSample

end HostWatch
