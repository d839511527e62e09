import HesaiSdk.UdpParser.Cloud
import HesaiSdk.UdpParser.Gated
import HesaiSdk.UdpParser.Restricted

/-! The points that the packets of an ATX stand for, with the correction and the firetime file it was given. -/

namespace HesaiSdk.Parsing

open Library Library.BlockWalk Lidar UdpProtocol

namespace Udp47Parser

/-- What the points of a packet depend on. -/
structure Calibrated (p q : Udp47Parser) : Prop where
  calibration : q.toCalibration = p.toCalibration
  corrections : q.corrections = p.corrections
  firetimes : q.firetimes = p.firetimes

def shape (env : Environment) (packet : UdpPacket) : Shape :=
  let h := V47.headerAt env packet
  ⟨h.getBlockNum, h.getLaserNum, h.getDistUnit, 0⟩

/-- Unit `j` of a packet; with a version that is none of the three the slot keeps its old azimuth. -/
def datum (env : Environment) (p : Udp47Parser) (packet : UdpPacket) (j : ℕ) (azimuth : ℚ) : PointDecodeData :=
  let h := V47.headerAt env packet
  let block := V43.Header.bodyOffset +
    (V47.sizeofBodyAzimuth + V47.sizeofBodyFineAzimuth + V47.sizeofBodyChnUnit * h.getLaserNum) * (j / h.getLaserNum)
  let unit := (V47.readChnUnit env packet (block + (V47.sizeofBodyAzimuth + V47.sizeofBodyFineAzimuth) +
    V47.sizeofBodyChnUnit * (j % h.getLaserNum))).val
  { azimuth := p.unitAzimuth (p.blockAzimuth (readU16 env packet block).val)
      (V47.readFrameId env packet h.tailOffset).val (V47.readMotorSpeed env packet h.tailOffset).val
      (j % h.getLaserNum) azimuth
    elevation := 0
    distances := unit.distance
    reflectivities := unit.reflectivity
    confidence := unit.confidence
    chnIndex := 0
    mirrorIndex := 0 }

def draw {Pt : Type} [Point Pt] (env : Environment) (p : Udp47Parser) (config : LidarDecodeConfig) (distanceUnit : ℚ)
    (timestamp : UInt64) (data : PointDecodeData) (ring : ℕ) (point : Pt) : Pt :=
  let angles := p.pointAngles data ring
  p.fillPoint env config data timestamp (data.distances.toNat * distanceUnit) angles.1 angles.2 ring point

section Decode

variable {env : Environment} {packet : UdpPacket} {p q : Udp47Parser} {Pt : Type} {frame : LidarDecodedFrame Pt}

lemma Calibrated.trans {r : Udp47Parser} (h : Calibrated p q) (h' : Calibrated q r) : Calibrated p r :=
  ⟨h'.calibration.trans h.calibration, h'.corrections.trans h.corrections, h'.firetimes.trans h.firetimes⟩

lemma decodePacket_calibrated : Calibrated p (p.decodePacket env packet frame).val.parser := by
  rw [decodePacket_val]
  split_ifs
  · exact ⟨decodeBody_calibration, rfl, rfl⟩
  · exact ⟨rfl, rfl, rfl⟩

lemma decodeBody_stored : Stored (shape env packet) frame
    (decodeBody env packet (V47.headerAt env packet) p frame).val.frame := by
  simp only [decodeBody, val_bind, val_pure, storeSensorTimestamp_val, BlockReader.walk_val]
  refine ⟨rfl, rfl, rfl, rfl, rfl, rfl, rfl, fun i hi => Function.update_of_ne hi _ _, Shape.otherSlots ?_⟩
  exact fun i hi => filled_of_not_slot _ hi

lemma decodePacket_packetNum : (p.decodePacket env packet frame).val.frame.packetNum = frame.packetNum + 1 ↔
    p.getCorrectionFile = true ∧ Delimited env packet := by
  rw [decodePacket_val]
  split_ifs with h
  · exact iff_of_true rfl h
  · exact iff_of_false (Nat.succ_ne_self _).symm h

lemma allows_decodeBody {h : V47.Header} {P : ℕ → Prop} :
    AllLog (Bounds.Allows { pointData := P }) (decodeBody env packet h p frame) ↔
      ∀ b < h.getBlockNum, ∀ j < h.getLaserNum,
        P (frame.packetNum * h.getBlockNum * h.getLaserNum + h.getLaserNum * b + j) := by
  have hcount : AllLog (Bounds.Allows { pointData := P }) (countSeqNum env packet h p.toGeneralParser) := by
    rw [countSeqNum]
    split_ifs <;> simp [Bounds.Allows]
  simp only [decodeBody, allLog_bind, allows_storeSensorTimestamp, V47.getMicroLidarTime, V43.getMicroLidarTime,
    allows_getMicroLidarTimeU64, timeBytes_true, V47.readMotorSpeed, V47.readReturnMode, V47.readFrameId, allows_readU16,
    allows_readU8, hcount, allLog_pure, BlockReader.allLog_walk, BlockReader.unitAt, bodyReader, V47.readChnUnit,
    V43.readChnUnit, implies_true, true_and, and_true, Bounds.Allows]

lemma allows_decodePacket {P : ℕ → Prop} :
    AllLog (Bounds.Allows { pointData := P }) (p.decodePacket env packet frame) ↔
      (p.getCorrectionFile = true ∧ Delimited env packet →
        ∀ b < (shape env packet).blockNum, ∀ j < (shape env packet).laserNum,
          P (frame.packetNum * (shape env packet).blockNum * (shape env packet).laserNum +
            (shape env packet).laserNum * b + j)) := by
  have hheader : AllLog (Bounds.Allows { pointData := P }) (V47.readHeader env packet) := by
    simp [V47.readHeader, V43.readHeader]
  rw [decodePacket, allows_afterTests trivial trivial, allLog_bind, and_iff_right hheader, allows_decodeBody]
  rfl

lemma Calibrated.unitAzimuth (h : Calibrated p q) (head : UInt16) (frameId : UInt8) (motorSpeed : UInt16) (i : ℕ)
    (old : ℚ) : q.unitAzimuth (q.blockAzimuth head) frameId motorSpeed i old =
      p.unitAzimuth (p.blockAzimuth head) frameId motorSpeed i old := by
  simp only [Udp47Parser.unitAzimuth, blockAzimuth, h.calibration, h.corrections, h.firetimes]

lemma draw_congr [Point Pt] (hcalibration : q.toCalibration = p.toCalibration) (hcorrections : q.corrections = p.corrections)
    (config : LidarDecodeConfig) (distanceUnit : ℚ) (timestamp : UInt64) (data : PointDecodeData) (ring : ℕ)
    (point : Pt) : q.draw env config distanceUnit timestamp data ring point =
      p.draw env config distanceUnit timestamp data ring point := by
  simp only [draw, pointAngles, hcalibration, hcorrections]

lemma Calibrated.draw [Point Pt] (h : Calibrated p q) (config : LidarDecodeConfig) (distanceUnit : ℚ)
    (timestamp : UInt64) (data : PointDecodeData) (ring : ℕ) (point : Pt) :
    q.draw env config distanceUnit timestamp data ring point =
      p.draw env config distanceUnit timestamp data ring point :=
  draw_congr h.calibration h.corrections config distanceUnit timestamp data ring point

end Decode

section Compute

variable {env : Environment} {p : Udp47Parser} {Pt : Type} [Point Pt] {frame frame' : LidarDecodedFrame Pt}
  {shape : Shape} {k i : ℕ}

lemma computeXYZI_val (k i : ℕ) : (p.computeXYZI env frame k).val i =
    if k * frame.perPointsNum ≤ i ∧ i < k * frame.perPointsNum + frame.blockNum * frame.laserNum then
      p.draw env frame.config frame.distanceUnit (frame.sensorTimestamp k) (frame.pointData i)
        ((i - k * frame.perPointsNum) % frame.laserNum) (frame.points i)
    else frame.points i := by
  rw [computeXYZI, fillGrid_val, grid]
  split_ifs with hi
  · have hrow := Nat.div_add_mod' (i - k * frame.perPointsNum) frame.laserNum
    have hindex : k * frame.perPointsNum + (i - k * frame.perPointsNum) / frame.laserNum * frame.laserNum +
        (i - k * frame.perPointsNum) % frame.laserNum = i := by omega
    simp only [hindex, draw]
  · rfl

lemma computeXYZI_count (h : HasShape shape frame) :
    (p.computeXYZI env frame k).log.count (.point i) = if shape.Slot k i then 1 else 0 := by
  rw [computeXYZI, fillGrid_log _ _ _ _ fun _ _ => rfl, count_points]
  simp only [h.slot_iff]

lemma computeXYZI_slot (h : HasShape shape frame) (hi : shape.Slot k i) : (p.computeXYZI env frame k).val i =
    p.draw env frame.config shape.distanceUnit (frame.sensorTimestamp k) (frame.pointData i)
      ((i - k * shape.pointNum) % shape.laserNum) (frame.points i) := by
  rw [computeXYZI_val, if_pos (h.slot_iff.mp hi), h.distanceUnit, h.perPointsNum, h.laserNum]

lemma computeXYZI_of_not_slot (h : HasShape shape frame) (hi : ¬shape.Slot k i) :
    (p.computeXYZI env frame k).val i = frame.points i := by
  rw [computeXYZI_val, if_neg (h.slot_iff.not.mp hi)]

end Compute

section Image

variable {env : Environment} {packet : UdpPacket} {p q : Udp47Parser} {Pt : Type} [Point Pt]
  {frame : LidarDecodedFrame Pt} {setup : CloudSetup} {j : ℕ}

variable (env) in
def Image (p : Udp47Parser) (setup : CloudSetup) (packet : UdpPacket) (j : ℕ) (point : Pt) : Prop :=
  let h := V47.headerAt env packet
  ∃ old azimuth, point = p.draw env setup.config h.getDistUnit
    (setup.stamp (V47.getMicroLidarTime env packet h.tailOffset).val packet) (p.datum env packet j azimuth)
    (j % h.getLaserNum) old

end Image

end Udp47Parser

section Parsers

variable (env : Environment) (Pt Fault : Type) [Point Pt] (parserFaultMessage : UdpPacket → Fault → Fault)

def udp47Storing : StoringParser Udp47Parser Pt Fault where
  toFramingParser := (udp47Gated env Pt Fault parserFaultMessage).framing
  shape := Udp47Parser.shape env
  rejected p frame packet _ := by
    simp only [GatedParser.framing, udp47Gated, udp47, Udp47Parser.decodePacket_val]
    split
    · exact fun h => absurd h (Nat.succ_ne_self _)
    · exact fun _ => rfl
  accepted p frame packet _ := by
    simp only [GatedParser.framing, udp47Gated, udp47, Udp47Parser.decodePacket_val]
    split
    · exact fun _ => Udp47Parser.decodeBody_stored
    · exact fun h => absurd h.symm (Nat.succ_ne_self _)
  pointIndex p frame packet _ P := by
    show ((p.decodePacket env packet frame).val.frame.packetNum = frame.packetNum + 1 → _) →
      AllLog _ (p.decodePacket env packet frame)
    rw [Udp47Parser.decodePacket_packetNum, ← Shape.forall_block]
    exact Udp47Parser.allows_decodePacket.mpr
  computesPoints _ _ _ _ := allLog_fillGrid _ _ _ fun _ => trivial

variable (p : Udp47Parser)

end Parsers

end HesaiSdk.Parsing
