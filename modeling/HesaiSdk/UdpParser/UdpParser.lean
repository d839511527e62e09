import HesaiSdk.UdpParser.Parser

namespace HesaiSdk.Parsing

open Library Lidar UdpProtocol

def parserOfVersion (major minor : UInt8) : Option ParserType :=
  match major.toNat, minor.toNat with
  | 1, 4 => some .udp14
  | 2, 4 => some .udp24
  | 2, 5 => some .udp25
  | 2, 6 => some .udp26
  | 3, 1 => some .udp31
  | 3, 2 => some .udp32
  | 4, 1 => some .udp43
  | 4, 3 => some .udp43
  | 4, 7 => some .udp47
  | 6, 1 => some .udp61
  | 7, 2 => some .udp72
  | _, _ => none

def creatGeneralParser (env : Environment) (packet : UdpPacket) : Option ParserType :=
  if packet.packetLen ∈ [1262, 1266, 1256, 1260] then some .udpP40
  else if packet.packetLen ∈ [1194, 1198, 1270, 1274] then some .udpP64
  else if Delimited env packet then parserOfVersion (byteAt env packet 2) (byteAt env packet 3)
  else none

structure UdpParser (σ : Type) where
  parser : Option σ
  fisrtPacket : Bool
  lastHostTimestamp : UInt64
  lastSensorTimestamp : UInt64
  packetCount : UInt8
  pcapTimeSynchronization : Bool
  sourceType : ℤ

namespace UdpParser

variable {σ Pt Fault : Type}

def new : UdpParser σ := ⟨none, true, 0, 0, 0, true, -1⟩

/-- The playback rate is synchronized with the host time. -/
def synchronize (frame : LidarDecodedFrame Pt) (u : UdpParser σ) : Logged DecodeEvent (UdpParser σ) := do
  let index := (frame.packetNum + (2 ^ 32 - 1)) % 2 ^ 32
  let sensorTimestamp := frame.sensorTimestamp index
  if u.fisrtPacket then do
    note (.sensorTimestamp index)
    pure { u with
      lastHostTimestamp := frame.hostTimestamp
      lastSensorTimestamp := sensorTimestamp
      packetCount := 1
      fisrtPacket := false }
  else if kPcapPlaySynchronizationCount ≤ u.packetCount + 1 then do
    let resetTime := ((sensorTimestamp - u.lastSensorTimestamp) -
      (frame.hostTimestamp - u.lastHostTimestamp)).toUInt32.toInt32.toInt
    note (.sensorTimestamp index)
    if 0 < resetTime then note (.sleep resetTime)
    pure { u with
      lastHostTimestamp := frame.hostTimestamp
      lastSensorTimestamp := sensorTimestamp
      packetCount := 0 }
  else pure { u with packetCount := u.packetCount + 1 }

variable (env : Environment) (P : Parser σ Pt Fault)

def decodePacket (u : UdpParser σ) (frame : LidarDecodedFrame Pt) (packet : UdpPacket) :
    Logged DecodeEvent (Decoded (UdpParser σ) Pt) :=
  if packet.packetLen < 6 then pure ⟨-1, u, { frame with scanComplete := false }⟩
  else
    match u.parser with
    | none => pure ⟨0, { u with parser := (creatGeneralParser env packet).map P.new }, frame⟩
    | some parser => do
      let d ← P.decodePacket parser frame packet
      let u := { u with parser := some d.parser }
      let u ← (if u.sourceType = 2 ∧ u.pcapTimeSynchronization = true ∧ d.ret = 0
        then u.synchronize d.frame else pure u)
      pure ⟨d.ret, u, d.frame⟩

def computeXYZI (u : UdpParser σ) (frame : LidarDecodedFrame Pt) (packetIndex : ℕ) :
    Logged DecodeEvent (ℕ → Pt) :=
  match u.parser with
  | none => pure frame.points
  | some parser => P.computeXYZI parser frame packetIndex

/-- The return value and the message, left as it was without a parser. -/
def parserFaultMessage (u : UdpParser σ) (packet : UdpPacket) (info : Fault) : ℤ × Fault :=
  match u.parser with
  | none => (-1, info)
  | some parser => (0, P.parserFaultMessage parser packet info)

end UdpParser

end HesaiSdk.Parsing
