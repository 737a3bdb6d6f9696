import HostWatch.Fault
import HostWatch.Host.Path
import HostWatch.Log
import HostWatch.Sample.Resource
set_option autoImplicit false

/-!
# Host: memory and mounted file systems

The usage of a path is that of the file system it lies on: among the mount points that
the path lies in, the one with the most parts.  What is used is what is not available,
and at least nothing.
-/

namespace HostWatch

open HostWatch.Time (Instant)

/-- A mounted file system. -/
structure Mount where
  point : String
  totalBytes : UInt64
  availableBytes : UInt64
  deriving DecidableEq, Repr, Inhabited

/-- What the system tells about its resources. -/
structure HostReading where
  cpuPercent : Float
  totalMemory : UInt64
  availableMemory : UInt64
  mounts : List Mount
  deriving DecidableEq, Inhabited

/-- The used share in percent; nothing of nothing is zero. -/
def usedPercent (used total : UInt64) : Float :=
  if total = 0 then 0.0 else used.toFloat / total.toFloat * 100.0

/-- What is used when so much is available. -/
def usedBytes (total available : UInt64) : UInt64 :=
  if available ≤ total then total - available else 0

/-- What is used and what is available, as far as it fits, are the total. -/
theorem usedBytes_add_min (total available : UInt64) :
    (usedBytes total available).toNat + min available.toNat total.toNat = total.toNat := by
  simp only [usedBytes]
  split
  · rename_i h
    rw [UInt64.toNat_sub_of_le _ _ h]
    have : available.toNat ≤ total.toNat := UInt64.le_iff_toNat_le.1 h
    omega
  · rename_i h
    have : ¬ available.toNat ≤ total.toNat := fun hle => h (UInt64.le_iff_toNat_le.2 hle)
    simp
    omega

namespace Mount

/-- The parts of the mount point. -/
def parts (m : Mount) : List PathPart := PathPart.ofPath m.point

/-- The later of two mounts, unless the earlier one has more parts. -/
def deeper (best : Option Mount) (m : Mount) : Option Mount :=
  match best with
  | none => some m
  | some b => if b.parts.length ≤ m.parts.length then some m else some b

/-- The mount that a path lies on: the one with the most parts, of several the last. -/
def holding? (mounts : List Mount) (path : String) : Option Mount :=
  (mounts.filter fun m => PathPart.liesIn (PathPart.ofPath path) m.parts).foldl deeper none

/-- The usage of a mount, shown for a path. -/
def usage (m : Mount) (path : String) : DiskUsage :=
  let used := usedBytes m.totalBytes m.availableBytes
  ⟨path, m.totalBytes, used, m.availableBytes, usedPercent used m.totalBytes⟩

end Mount

/-- The usage of the file system that a path lies on. -/
def diskUsage? (mounts : List Mount) (path : String) : Option DiskUsage :=
  (Mount.holding? mounts path).map (·.usage path)

/-- The memory of the host; a host without memory cannot be right. -/
def memoryUsage (total available : UInt64) : Except Fault MemoryUsage :=
  if total = 0 then .error (.collection "failed to get memory usage: total memory is zero")
  else
    let used := usedBytes total available
    .ok ⟨total, used, available, usedPercent used total⟩

/-- A sample of the resources at `now`, with the disks of those paths that lie on a known
file system. -/
def HostReading.sample (r : HostReading) (paths : List String) (now : Instant) :
    Except Fault ResourceSample :=
  (memoryUsage r.totalMemory r.availableMemory).map fun memory =>
    ⟨now, r.cpuPercent, memory, paths.filterMap (diskUsage? r.mounts)⟩

/-- The log of taking a sample. -/
def HostReading.logs (r : HostReading) (paths : List String) : List LogLine :=
  .plain .debug "Collecting system metrics..." ::
    match memoryUsage r.totalMemory r.availableMemory with
    | .error _ => []
    | .ok _ => (paths.filter fun p => (diskUsage? r.mounts p).isNone).map fun p =>
        .plain .warn ("Failed to get disk usage for " ++ p ++ ": no matching filesystem")

end HostWatch
