import HesaiSdk.UdpParser.PointParser
import HesaiSdk.UdpParser.Udp14RoundTrip

/-! The points that a packet stands for, apart from the frame in which they are computed. -/

namespace HesaiSdk.Parsing

open Library Library.BlockWalk Lidar UdpProtocol

/-- What the points of a cloud depend on besides the packets. -/
structure CloudSetup where
  calibration : Calibration
  config : LidarDecodeConfig
  useTimestampType : ℕ

/-- `Image setup packet j point` says that `point` stands for unit `j` of the packet. -/
structure CloudParser (σ Pt Fault : Type) extends PointParser σ Pt Fault Calibration where
  Image : CloudSetup → UdpPacket → ℕ → Pt → Prop
  keepsSetup : ∀ p frame packet,
    let d := (decodePacket p frame packet).val
    d.frame.config = frame.config ∧ d.frame.useTimestampType = frame.useTimestampType
  draws : ∀ p frame packet,
    let d := (decodePacket p frame packet).val
    d.frame.packetNum = frame.packetNum + 1 → ∀ points, ∀ j < (shape packet).pointNum,
      Image ⟨calibration p, frame.config, frame.useTimestampType⟩ packet j
        ((computeXYZI d.parser { d.frame with points := points } frame.packetNum).val
          (frame.packetNum * (shape packet).pointNum + j))

namespace CloudSetup

variable {Pt : Type} (env : Environment) (setup : CloudSetup)

def stamp (lidarTime : UInt64) (packet : UdpPacket) : UInt64 :=
  if setup.useTimestampType = 0 then lidarTime else packet.recvTimestamp

/-- One measured unit, put into `point` by the setters. -/
def draw [Point Pt] (spot : ℚ → ℤ) (distanceUnit : ℚ) (timestamp : UInt64) (data : PointDecodeData) (ring : ℕ)
    (point : Pt) : Pt :=
  let angles := setup.calibration.pointAngles env spot distanceUnit data ring
  setup.calibration.fillPoint env setup.config data timestamp angles.1 angles.2.1 angles.2.2 ring point

variable {env setup} {shape : Shape} {frame : LidarDecodedFrame Pt} {spot : ℚ → ℤ} {distanceUnit : ℚ}
  {timestamp : UInt64} {data : PointDecodeData} {ring : ℕ} {point : Pt}

end CloudSetup

section Drawing

variable {Pt : Type} [Point Pt] {env : Environment} {setup : CloudSetup} {shape : Shape} {frame : LidarDecodedFrame Pt}
  {spot : ℚ → ℤ}

lemma filled_slot {Head Acc : Type} {r : BlockReader DecodeEvent PointDecodeData Head Acc} {packetNum o j : ℕ}
    {s : ℕ → PointDecodeData} (hj : j < shape.pointNum) :
    r.filled shape.laserNum shape.blockNum o (packetNum * shape.blockNum * shape.laserNum) s
        (packetNum * shape.pointNum + j) =
      (r.unitAt shape.laserNum o (j / shape.laserNum) (j % shape.laserNum) (s (packetNum * shape.pointNum + j))).val := by
  have hpos : 0 < shape.laserNum := Nat.pos_of_mul_pos_left (Nat.zero_lt_of_lt hj)
  have hb : j / shape.laserNum < shape.blockNum := Nat.div_lt_of_lt_mul (by rwa [Nat.mul_comm])
  have hindex : packetNum * shape.blockNum * shape.laserNum + j / shape.laserNum * shape.laserNum +
      j % shape.laserNum = packetNum * shape.pointNum + j := by
    rw [Shape.pointNum, Nat.add_assoc, Nat.mul_comm (j / shape.laserNum), Nat.div_add_mod, Nat.mul_assoc]
  rw [← hindex]
  exact r.filled_unit hb (Nat.mod_lt _ hpos)

end Drawing

section Parsers

variable (env : Environment)

/-- Unit `j` of an XT packet, where no firetime file moves its azimuth. -/
def Udp61Parser.datum (packet : UdpPacket) (j : ℕ) : PointDecodeData :=
  let h := V61.headerAt env packet
  let block := V61.Header.bodyOffset + (V61.sizeofBodyAzimuth + V61.sizeofBodyChannelData * h.getLaserNum) *
    (j / h.getLaserNum)
  let unit := (V61.readChannelData env packet
    (block + V61.sizeofBodyAzimuth + V61.sizeofBodyChannelData * (j % h.getLaserNum))).val
  { azimuth := (readU16 env packet block).val.toNat
    elevation := 0
    distances := unit.distance
    reflectivities := unit.reflectivity
    confidence := unit.confidence
    chnIndex := 0
    mirrorIndex := 0 }

/-- Unit `j` of a Pandar128 packet; without a confidence level the slot keeps its old confidence. -/
def Udp14Parser.datum (packet : UdpPacket) (j : ℕ) (confidence : UInt8) : PointDecodeData :=
  let h := V14.headerAt env packet
  let block := Udp14Parser.blockOffset h (j / h.getLaserNum)
  let unit := (V14.readChnUnit env packet h.hasConfidenceLevel
    (block + V14.sizeofBodyAzimuth + h.unitSize * (j % h.getLaserNum))).val
  { azimuth := (readU16 env packet block).val.toNat
    elevation := 0
    distances := unit.distance
    reflectivities := unit.reflectivity
    confidence := unit.confidence.getD confidence
    chnIndex := 0
    mirrorIndex := 0 }

variable {env} {packet : UdpPacket} {Pt : Type} {frame : LidarDecodedFrame Pt} {j : ℕ}

section Image

variable (env) [Point Pt]

def Udp61Parser.Image (setup : CloudSetup) (packet : UdpPacket) (j : ℕ) (point : Pt) : Prop :=
  let h := V61.headerAt env packet
  setup.calibration.getFiretimeFile = false → ∃ old, point =
    setup.draw env (Udp61Parser.spotCorrection setup.calibration) h.getDistUnit
      (setup.stamp (V61.getMicroLidarTime env packet h.tailOffset).val packet) (datum env packet j)
      (j % h.getLaserNum) old

def Udp14Parser.Image (setup : CloudSetup) (packet : UdpPacket) (j : ℕ) (point : Pt) : Prop :=
  let h := V14.headerAt env packet
  setup.calibration.getFiretimeFile = false → ∃ old confidence, point =
    setup.draw env (fun _ => 0) h.getDistUnit
      (setup.stamp (V14.getMicroLidarTime env packet h.tailOffset).val packet) (datum env packet j confidence)
      (j % h.getLaserNum) old

variable {env}

end Image

variable (env) (Pt) (Fault : Type) [Point Pt]

end Parsers

end HesaiSdk.Parsing
