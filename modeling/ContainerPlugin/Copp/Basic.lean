import ContainerPlugin.Lib.Loop
import ContainerPlugin.Lib.Scan

/-!
# Control plane policing

The statistics of `sim-copp-plugin.c` are sums over the rows of `/proc/net/dev`. A text is a list of
characters that stand for its bytes.
-/

namespace ContainerPlugin.Copp

open Scan

/-- `IF_NAMESIZE` -/
def ifNamesize : ℕ := 16

/-- `EOPNOTSUPP` -/
def eopnotsupp : ℕ := 95

/-- `ENODATA` -/
def enodata : ℕ := 61

/-- `enum copp_protocol_class` -/
inductive ProtocolClass where
  | defaultUnknown
  | other (value : ℕ)
  deriving DecidableEq

/-- `struct copp_protocol_stats` -/
structure ProtocolStats where
  packetsPassed : UInt64
  bytesPassed : UInt64
  packetsDropped : UInt64
  bytesDropped : UInt64
  deriving DecidableEq

/-- What a row can do to the program. -/
inductive Fault where
  /-- The name is written past the end of `devName`. -/
  | devNameOverflow
  /-- A variable is used that `sscanf` has not set. -/
  | uninitialised
  deriving DecidableEq

/-- Whether `strncmp(s, t, n)` is 0. -/
def strncmpEq (s t : List Char) (n : ℕ) : Bool := (s ++ ['\x00']).take n = (t ++ ['\x00']).take n

def rowIgnoreList : List (List Char) :=
  ["ovs-netdev:".toList, "bridge_normal:".toList, "lo:".toList]

def isIgnoreRow (name : List Char) (ignoreNames : List (List Char)) : Bool :=
  ignoreNames.any fun ignoreName => strncmpEq name ignoreName ifNamesize

/-- The bytes that `%s` stores for a row, the terminator included. -/
def devNameBytes (rowStr : List Char) : ℕ :=
  match scanWord rowStr with
  | none => 0
  | some (devName, _) => devName.length + 1

/-- The four `%lu`, where all of them are set. -/
def scanCounters (cs : List Char) : Option (UInt64 × UInt64 × UInt64 × UInt64) := do
  let (rxBytes, cs) ← scanUlong cs
  let (rxPkts, cs) ← scanUlong cs
  let (rxErrs, cs) ← scanUlong cs
  let (rxDrop, _) ← scanUlong cs
  return (rxBytes, rxPkts, rxErrs, rxDrop)

/-- `parse_copp_stats` -/
def parseCoppStats (rowStr : List Char) (stats : ProtocolStats) : Except Fault ProtocolStats :=
  match scanWord rowStr with
  | none => .error .uninitialised
  | some (devName, rest) =>
    if ifNamesize < devNameBytes rowStr then .error .devNameOverflow
    else if isIgnoreRow devName rowIgnoreList then .ok stats
    else
      match scanCounters rest with
      | none => .error .uninitialised
      | some (rxBytes, rxPkts, _, rxDrop) => .ok { stats with
          bytesPassed := stats.bytesPassed + rxBytes
          packetsPassed := stats.packetsPassed + rxPkts
          packetsDropped := stats.packetsDropped + rxDrop }

/-- The state of the loop over the rows. -/
structure RowLoop where
  rowNum : ℕ
  devFile : Stream
  stats : ProtocolStats

/-- What `sim_copp_stats_get` returns and leaves in `stats`. -/
abbrev Result := Except Fault (ℕ × ProtocolStats)

/-- Behind the loop. -/
def finish (stats : ProtocolStats) : Result := .ok (0, { stats with bytesDropped := -1 })

/-- One round of the loop; the first two rows are headings. -/
def RowLoop.step (s : RowLoop) : RowLoop ⊕ Result :=
  let rowNum := s.rowNum + 1
  match s.devFile.getline with
  | (none, _) => .inr (if rowNum ≤ 1 then .ok (enodata, s.stats) else finish s.stats)
  | (some rowStr, devFile) =>
    match if rowNum < 3 then .ok s.stats else parseCoppStats rowStr s.stats with
    | .error fault => .inr (.error fault)
    | .ok stats => if devFile.eof then .inr (finish stats) else .inl ⟨rowNum, devFile, stats⟩

/-- `sim_copp_stats_get`; `fopen` is `errno` or the contents of `/proc/net/dev`. -/
def simCoppStatsGet (fuel : ℕ) (fopen : Except ℕ (List Char)) (protocolClass : ProtocolClass)
    (stats : ProtocolStats) : Option Result :=
  if protocolClass ≠ .defaultUnknown then some (.ok (eopnotsupp, stats))
  else
    let stats := { stats with bytesPassed := 0, packetsPassed := 0, packetsDropped := 0 }
    match fopen with
    | .error errno => some (.ok (errno, stats))
    | .ok content => Loop.run RowLoop.step fuel ⟨0, ⟨content, false⟩, stats⟩

end ContainerPlugin.Copp
