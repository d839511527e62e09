import HesaiSdk.UdpParser.UdpParser

namespace HesaiSdk.Driver

open Library Lidar UdpProtocol Parsing

/-- The configured device; a port is 0 where `HesaiLidarSdk::Init` did not take it. -/
structure DeviceFilter where
  deviceIpAddress : UInt32
  deviceUdpPort : UInt16
  deviceFaultPort : UInt16
deriving Inhabited

/-- What one turn of the loop finds: the result of `GetOnePacket` and `init_finish_[PointCloudParse]`. -/
structure Fetch where
  packet : Option UdpPacket
  pointCloudParse : Bool

inductive Admission where
  | skip
  | fault (packet : UdpPacket)
  | decode (packet : UdpPacket)

inductive RunEvent (Pt Fault : Type) where
  | access (event : DecodeEvent)
  | compute (packetIndex : ℕ)
  | counted (pointsNum : ℕ)
  | accepted (packet : UdpPacket)
  | published (frame : LidarDecodedFrame Pt) (packets : List UdpPacket)
  | dropped (packets : List UdpPacket)
  | overflow (packets : List UdpPacket)
  | faultMessage (info : Fault)

structure RunState (σ Pt Fault : Type) where
  udpParser : UdpParser σ
  frame : LidarDecodedFrame Pt
  udpPacketFrame : List UdpPacket
  packetIndex : ℕ
  faultMessageInfo : Fault

namespace DeviceFilter

variable (device : DeviceFilter)

def fromOther (port : UInt16) (packet : UdpPacket) : Prop :=
  device.deviceIpAddress ≠ packet.ip ∨ port ≠ packet.port

instance (port : UInt16) (packet : UdpPacket) : Decidable (device.fromOther port packet) :=
  inferInstanceAs (Decidable (_ ∨ _))

def classify (packetIndex : ℕ) (fetch : Fetch) : Admission :=
  match fetch.packet with
  | none => .skip
  | some packet =>
    if packet.packetLen = kFaultMessageLength then
      if device.deviceFaultPort ≠ 0 ∧ device.fromOther device.deviceFaultPort packet then .skip
      else .fault packet
    else if fetch.pointCloudParse = false then .skip
    else if device.deviceUdpPort ≠ 0 ∧ (packet.isTimeout = false ∨ packetIndex = 0) ∧
        device.fromOther device.deviceUdpPort packet then .skip
    else .decode packet

/-- The packets that a turn may hand to `DecodePacket`. -/
def Decodes (fetch : Fetch) (packet : UdpPacket) : Prop :=
  ∃ packetIndex, device.classify packetIndex fetch = .decode packet

end DeviceFilter

namespace RunState

variable {σ Pt Fault : Type}

/-- The start of the loop, on a parser that `Lidar::Init` has found. -/
def start (udpParser : UdpParser σ) (frame : LidarDecodedFrame Pt) (info : Fault) : RunState σ Pt Fault :=
  ⟨udpParser, { frame with packetNum := 0 }, [], 0, info⟩

def count (packet : UdpPacket) (s : RunState σ Pt Fault) : RunState σ Pt Fault :=
  { s with
    frame := { s.frame with pointsNum := s.frame.pointsNum + s.frame.perPointsNum }
    udpPacketFrame := s.udpPacketFrame ++ [packet]
    packetIndex := s.packetIndex + 1 }

def endFrame (s : RunState σ Pt Fault) : RunState σ Pt Fault :=
  { s with frame := { s.frame with packetNum := s.packetIndex } }

def publish (s : RunState σ Pt Fault) : RunEvent Pt Fault :=
  if kMinPointsOfOneFrame < s.frame.pointsNum then .published s.frame s.udpPacketFrame
  else .dropped s.udpPacketFrame

def restart (s : RunState σ Pt Fault) : RunState σ Pt Fault :=
  { s with frame := s.frame.update, udpPacketFrame := [], packetIndex := 0 }

variable (env : Environment) (P : Parser σ Pt Fault)

def decode (packet : UdpPacket) (s : RunState σ Pt Fault) :
    Logged (RunEvent Pt Fault) (ℤ × RunState σ Pt Fault) := do
  let d ← relabel .access (s.udpParser.decodePacket env P s.frame packet)
  pure (d.ret, { s with udpParser := d.parser, frame := d.frame })

def compute (s : RunState σ Pt Fault) : Logged (RunEvent Pt Fault) (RunState σ Pt Fault) := do
  note (.compute s.packetIndex)
  let points ← relabel .access (s.udpParser.computeXYZI P s.frame s.packetIndex)
  pure { s with frame := { s.frame with points := points } }

def append (packet : UdpPacket) (s : RunState σ Pt Fault) : Logged (RunEvent Pt Fault) (RunState σ Pt Fault) := do
  let s ← s.compute P
  note (.counted (s.count packet).frame.pointsNum)
  pure (s.count packet)

def overflow (s : RunState σ Pt Fault) : Logged (RunEvent Pt Fault) (RunState σ Pt Fault) :=
  if kMaxPacketNumPerFrame ≤ s.packetIndex then do
    note (.overflow s.udpPacketFrame)
    pure s.restart
  else pure s

/-- The end of a frame. A packet that does more than split it is decoded once more, as the first
packet of the next one. -/
def splitFrame (packet : UdpPacket) (s : RunState σ Pt Fault) :
    Logged (RunEvent Pt Fault) (RunState σ Pt Fault) := do
  let ended := s.endFrame
  note ended.publish
  if s.frame.packetNum = s.packetIndex then pure ended.restart
  else do
    let d ← ended.restart.decode env P packet
    d.2.append P packet

def acceptedIf (packet : UdpPacket) (before : ℕ) (d : ℤ × RunState σ Pt Fault) :
    Logged (RunEvent Pt Fault) Unit :=
  if d.1 = 0 ∧ d.2.frame.packetNum = before + 1 then note (.accepted packet) else pure ()

def parsePacket (packet : UdpPacket) (s : RunState σ Pt Fault) :
    Logged (RunEvent Pt Fault) (RunState σ Pt Fault) := do
  let d ← s.decode env P packet
  acceptedIf packet s.frame.packetNum d
  if d.1 ≠ 0 then pure d.2
  else if d.2.frame.scanComplete then d.2.splitFrame env P packet
  else do
    let s ← (if d.2.frame.packetNum = d.2.packetIndex then pure d.2 else d.2.append P packet)
    s.overflow

def parseFault (packet : UdpPacket) (s : RunState σ Pt Fault) :
    Logged (RunEvent Pt Fault) (RunState σ Pt Fault) := do
  let r := s.udpParser.parserFaultMessage P packet s.faultMessageInfo
  if r.1 = 0 then note (.faultMessage r.2)
  pure { s with faultMessageInfo := r.2 }

def step (device : DeviceFilter) (s : RunState σ Pt Fault) (fetch : Fetch) :
    Logged (RunEvent Pt Fault) (RunState σ Pt Fault) :=
  match device.classify s.packetIndex fetch with
  | .skip => pure s
  | .fault packet => s.parseFault P packet
  | .decode packet => s.parsePacket env P packet

def run (device : DeviceFilter) (fetches : List Fetch) (s : RunState σ Pt Fault) :
    Logged (RunEvent Pt Fault) (RunState σ Pt Fault) :=
  runs (step env P device) fetches s

end RunState

end HesaiSdk.Driver
