import HesaiSdk.UdpParser.Capacity
import HesaiSdk.UdpParser.RowPoints

/-! Every class computes its points one by one. The points of a 2.6 packet are a single row over all of its blocks. -/

namespace HesaiSdk.Parsing

open Library Library.BlockWalk Lidar UdpProtocol

namespace Udp26Parser

open V26

variable {env : Environment} {packet : UdpPacket} {h : Header} {slots : ℕ → PointDecodeData} {k i : ℕ}

variable (env) in
def shape (packet : UdpPacket) : Shape :=
  let h := Header.headerAt env packet
  ⟨h.getBlockNum, h.getLaserNum + h.getSecRetNum * h.getSeqNum, h.distUnit.toNat / 1000,
    h.getSecRetNum * h.getSeqNum⟩

lemma pointNum_eq : (shape env packet).pointNum = (Header.headerAt env packet).perPointsNum := Nat.mul_comm _ _

/-- Both walks stay within the slots of the first block. -/
lemma walk_of_outside {index : ℕ} (hi : i < index ∨ index + (h.getLaserNum + h.getSecRetNum * h.getSeqNum) ≤ i) :
    (walk env packet h index slots).val i = slots i := by
  have hlasers : h.getSeqNum * perSeq h ≤ h.getLaserNum := Nat.mul_div_le _ _
  rw [walk_eq]
  dsimp only
  rw [filled]
  rw [Nat.mul_comm h.getSecRetNum] at hi
  rcases hi with hi | hi
  · rw [fillTo_of_lt (by omega), fillTo_of_lt hi]
  · rw [fillTo_of_ge (by omega), fillTo_of_ge (by omega)]

lemma walk_of_otherSlot {packetNum : ℕ} (hk : k ≠ packetNum) (hi : (shape env packet).Slot k i) :
    (walk env packet (Header.headerAt env packet) (packetNum * ((Header.headerAt env packet).getLaserNum +
      (Header.headerAt env packet).getSecRetNum * (Header.headerAt env packet).getSeqNum) *
        (Header.headerAt env packet).getBlockNum) slots).val i = slots i := by
  obtain ⟨hlow, hhigh⟩ := hi
  rw [pointNum_eq, Header.perPointsNum] at hlow hhigh
  set h := Header.headerAt env packet
  set width := h.getLaserNum + h.getSecRetNum * h.getSeqNum with hwidth
  have hblocks : 0 < h.getBlockNum := by
    by_contra hzero
    rw [Nat.eq_zero_of_not_pos hzero] at hlow hhigh
    omega
  have hblock : width ≤ width * h.getBlockNum := Nat.le_mul_of_pos_right _ hblocks
  apply walk_of_outside
  rw [← hwidth, Nat.mul_assoc]
  rcases Nat.lt_or_gt_of_ne hk with hlt | hgt
  · have hrows : (k + 1) * (width * h.getBlockNum) ≤ packetNum * (width * h.getBlockNum) := Nat.mul_le_mul_right _ hlt
    rw [Nat.succ_mul] at hrows
    exact Or.inl (by omega)
  · have hrows : (packetNum + 1) * (width * h.getBlockNum) ≤ k * (width * h.getBlockNum) := Nat.mul_le_mul_right _ hgt
    rw [Nat.succ_mul] at hrows
    exact Or.inr (by omega)

variable {Pt : Type} [Point Pt] {c : ETCorrections} {frame : LidarDecodedFrame Pt} {format : Shape}

/-- The row of a `uint16_t` number of points. -/
lemma mem_row_iff : k * format.pointNum ≤ i ∧ i < k * format.pointNum + format.pointNum % 2 ^ 16 ↔
    format.Slot k i ∧ i - k * format.pointNum < format.pointNum % 2 ^ 16 := by
  have hle := Nat.mod_le format.pointNum (2 ^ 16)
  rw [Shape.Slot]
  omega

lemma computeXYZI_val (hper : frame.perPointsNum = format.pointNum) : (computeXYZI env c frame k).val i =
    if format.Slot k i ∧ i - k * format.pointNum < format.pointNum % 2 ^ 16 then
      let data := frame.pointData i
      fillEtPoint env frame.config data (frame.sensorTimestamp k) (data.distances.toNat * frame.distanceUnit)
        (pointAngles env c data).val false data.chnIndex.toNat (frame.points i)
    else frame.points i := by
  rw [computeXYZI, fillRow_val, hper]
  dsimp only
  split_ifs with hi hsmall hsmall
  · rw [Nat.add_sub_cancel' hi.1]
  · exact absurd (mem_row_iff.mp hi) hsmall
  · exact absurd (mem_row_iff.mpr hsmall) hi
  · rfl

end Udp26Parser

section Parsers

variable (env : Environment) (Pt Fault : Type) [Point Pt]

def udp26Shaped : ShapedParser (EtParser ETCorrections) Pt Fault :=
  (EtParser.gated _ (udp26_guards env Pt Fault)).shaped (Udp26Parser.shape env)
    (by
      intro p frame packet ⟨hc, hd⟩
      show Stored _ frame (Udp26Parser.decodePacket env packet p frame).val.frame
      rw [Udp26Parser.decodePacket_val frame hc hd]
      exact EtParser.decodeMessage_stored rfl rfl rfl Udp26Parser.pointNum_eq.symm
        fun k hk i hi => Udp26Parser.walk_of_otherSlot hk hi)

/-- The number of points is a `uint16_t`: of more, the last are not computed. -/
def udp26Points : PointParser (EtParser ETCorrections) Pt Fault ETCorrections where
  toShapedParser := udp26Shaped env Pt Fault
  calibration p := p.corrections
  keepsCalibration _ _ _ := EtParser.guarded_corrections rfl
  computes format k i p p' frame frame' hc h h' hi hs := by
    show (Udp26Parser.computeXYZI env p.corrections frame k).val i =
      (Udp26Parser.computeXYZI env p'.corrections frame' k).val i
    rw [Udp26Parser.computeXYZI_val h.perPointsNum, Udp26Parser.computeXYZI_val h'.perPointsNum, hc, hs.config,
      hs.sensorTimestamp, hs.pointData i hi, hs.points, h.distanceUnit, h'.distanceUnit]
  computesSlots format k i p frame h hi := by
    show (Udp26Parser.computeXYZI env p.corrections frame k).val i = _
    rw [Udp26Parser.computeXYZI_val h.perPointsNum, if_neg fun hslot => hi hslot.1]
  written _ format _ k i := decide (i - k * format.pointNum < format.pointNum % 2 ^ 16)
  writtenFrom _ _ _ _ _ _ _ _ := rfl
  writesOnce format k i p frame h := by
    show (Udp26Parser.computeXYZI env p.corrections frame k).log.count _ = _
    rw [Udp26Parser.computeXYZI, count_fillRow_log _ _ _ point_injective, h.perPointsNum]
    refine if_congr ?_ rfl rfl
    rw [decide_eq_true_iff]
    exact Udp26Parser.mem_row_iff

variable {Fault} (faultMessage43 faultMessage47 : UdpPacket → Fault → Fault)

def udp47Points : PointParser Udp47Parser Pt Fault (Calibration × ATXCorrections) where
  toShapedParser := (udp47Storing env Pt Fault faultMessage47).toShapedParser
  calibration p := (p.toCalibration, p.corrections)
  keepsCalibration p frame packet := by
    have hcalibrated := @Udp47Parser.decodePacket_calibrated env packet p Pt frame
    exact Prod.ext hcalibrated.calibration hcalibrated.corrections
  computes shape k i p p' frame frame' hc h h' hi hs := by
    obtain ⟨hcalibration, hcorrections⟩ := Prod.mk.inj hc
    show (p.computeXYZI env frame k).val i = (p'.computeXYZI env frame' k).val i
    rw [Udp47Parser.computeXYZI_slot (h.hasShape fun _ => rfl) hi,
      Udp47Parser.computeXYZI_slot (h'.hasShape fun _ => rfl) hi, Udp47Parser.draw_congr hcalibration hcorrections,
      hs.config, hs.sensorTimestamp, hs.pointData i hi, hs.points]
  computesSlots _ _ _ _ _ h hi := Udp47Parser.computeXYZI_of_not_slot (h.hasShape fun _ => rfl) hi
  written _ _ _ _ _ := true
  writtenFrom _ _ _ _ _ _ _ _ := rfl
  writesOnce _ _ _ _ _ h :=
    (Udp47Parser.computeXYZI_count (h.hasShape fun _ => rfl)).trans (by simp only [and_true])

/-- What the points of a class depend on of what the files have set. -/
def PointCalibration : ParserType → Type
  | .udp24 => ETCorrectionsV4
  | .udp25 | .udp26 => ETCorrections
  | .udp43 => Udp43Parser
  | .udp47 => Calibration × ATXCorrections
  | _ => Calibration

def parserPoints : ∀ type, PointParser (ParserState type) Pt Fault (PointCalibration type)
  | .udpP40 => (udpP40Walking env Pt Fault).points
  | .udpP64 => (udpP64Walking env Pt Fault).points
  | .udp14 => udp14Points env Pt Fault
  | .udp24 => udp24Points env Pt Fault
  | .udp25 => udp25Points env Pt Fault
  | .udp26 => udp26Points env Pt Fault
  | .udp31 => (udp31Walking env Pt Fault).points
  | .udp32 => (udp32Walking env Pt Fault).points
  | .udp43 => udp43Points env Pt Fault faultMessage43
  | .udp47 => udp47Points env Pt faultMessage47
  | .udp61 => udp61Points env Pt Fault
  | .udp72 => udp72Points env Pt Fault

end Parsers

end HesaiSdk.Parsing
