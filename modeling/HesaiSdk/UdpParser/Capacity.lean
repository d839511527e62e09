import HesaiSdk.UdpParser.AtxCloud
import HesaiSdk.UdpParser.Dispatch
import HesaiSdk.UdpParser.EtStoring
import HesaiSdk.UdpParser.Udp26Returns
import HesaiSdk.UdpParser.WalkingParsers

/-! Parsers of which each accepted packet announces how many slots of the frame it takes. -/

namespace HesaiSdk.Parsing

open Library Library.BlockWalk Lidar UdpProtocol

variable {σ Pt Fault : Type}

structure CapacityParser (σ Pt Fault : Type) extends FramingParser σ Pt Fault where
  pointNum : UdpPacket → ℕ
  keepsPointsNum : ∀ p frame packet, Received packet →
    (decodePacket p frame packet).val.frame.pointsNum = frame.pointsNum
  announces : ∀ p frame packet, Received packet →
    let d := (decodePacket p frame packet).val
    d.frame.packetNum = frame.packetNum + 1 → d.frame.perPointsNum = pointNum packet
  pointIndex : ∀ p frame packet, Received packet → frame.packetNum < kMaxPacketNumPerFrame →
    ((decodePacket p frame packet).val.frame.packetNum = frame.packetNum + 1 →
      pointNum packet ≤ kMaxPointsNumPerPacket) →
    AllLog (Bounds.Allows { pointData := (· < kMaxPointsNumPerFrame) }) (decodePacket p frame packet)
  computesPoints : ∀ p frame packetIndex P,
    AllLog (Bounds.Allows { pointData := P }) (computeXYZI p frame packetIndex)

def StoringParser.capacity (F : StoringParser σ Pt Fault) : CapacityParser σ Pt Fault where
  toFramingParser := F.toFramingParser
  pointNum packet := (F.shape packet).pointNum
  keepsPointsNum p frame packet hr := by
    rcases F.counts p frame packet hr with ⟨-, h⟩ | ⟨-, h⟩ | ⟨-, h, -⟩
    · rw [F.rejected p frame packet hr h]
    · exact (F.accepted p frame packet hr h).pointsNum
    · rw [F.rejected p frame packet hr h]
  announces p frame packet hr h := (F.accepted p frame packet hr h).perPointsNum
  pointIndex p frame packet hr hn hsmall :=
    F.pointIndex p frame packet hr _ fun h => Shape.slots_below_iff.mpr (hsmall h) _ hn
  computesPoints := F.computesPoints

namespace Udp26Parser

variable {env : Environment} {packet : UdpPacket} {Corrections : Type} {p : EtParser Corrections}
  {frame : LidarDecodedFrame Pt}

lemma walk_below {h : V26.Header} {index : ℕ} {slots : ℕ → PointDecodeData} :
    ∀ i ∈ (walk env packet h index slots).log.filterMap filledSlot,
      i < index + (h.getLaserNum + h.getSecRetNum * h.getSeqNum) := by
  intro i hi
  have hlasers : h.getSeqNum * perSeq h ≤ h.getLaserNum := Nat.mul_div_le _ _
  have hcount := List.count_pos_iff.mpr hi
  rw [count_filled, Nat.mul_comm h.getSeqNum h.getSecRetNum] at hcount
  by_contra hout
  rw [if_neg (by omega), if_neg (by omega)] at hcount
  exact absurd hcount (Nat.lt_irrefl 0)

/-- Where no block is announced the walk starts at the first slot, and the counts in the header are small. -/
lemma filled_below {h : V26.Header} {slots : ℕ → PointDecodeData} {n : ℕ} (hn : n < kMaxPacketNumPerFrame)
    (hsmall : h.perPointsNum ≤ kMaxPointsNumPerPacket) :
    ∀ i ∈ (walk env packet h (n * (h.getLaserNum + h.getSecRetNum * h.getSeqNum) * h.getBlockNum)
      slots).log.filterMap filledSlot, i < kMaxPointsNumPerFrame := by
  intro i hi
  have hlt := walk_below i hi
  rw [V26.Header.perPointsNum] at hsmall
  rw [Nat.mul_assoc] at hlt
  rcases Nat.eq_zero_or_pos h.getBlockNum with hzero | hpos
  · have hlaser : h.getLaserNum < 2 ^ 16 := h.laserNum.toNat_lt
    have hsecond : h.getSecRetNum * h.getSeqNum ≤ 255 * 255 :=
      Nat.mul_le_mul (Nat.le_of_lt_succ h.secRetNum.toNat_lt) (Nat.le_of_lt_succ h.seqNum.toNat_lt)
    rw [hzero] at hlt
    simp only [kMaxPointsNumPerFrame, kMaxPointsNumPerPacket, kMaxPacketNumPerFrame]
    omega
  · have hwidth : h.getLaserNum + h.getSecRetNum * h.getSeqNum ≤ kMaxPointsNumPerPacket :=
      (Nat.le_mul_of_pos_right _ hpos).trans hsmall
    have hindex : (n + 1) * kMaxPointsNumPerPacket ≤ kMaxPacketNumPerFrame * kMaxPointsNumPerPacket :=
      Nat.mul_le_mul_right _ hn
    have hbase := Nat.mul_le_mul_left n hsmall
    rw [Nat.succ_mul] at hindex
    rw [kMaxPointsNumPerFrame, Nat.mul_comm kMaxPointsNumPerPacket]
    omega

end Udp26Parser

namespace UdpParser

variable {env : Environment} {F : CapacityParser σ Pt Fault} {u : UdpParser σ} {frame : LidarDecodedFrame Pt}
  {packet : UdpPacket}

lemma decodePacket_pointsNum (hr : F.Received packet) :
    (u.decodePacket env F.toParser frame packet).val.frame.pointsNum = frame.pointsNum := by
  by_cases h : packet.packetLen < 6
  · rw [decodePacket_val_of_short h]
  cases hp : u.parser with
  | none =>
    rw [decodePacket, if_neg h]
    simp [hp]
  | some p =>
    rw [(decodePacket_val_of_some env F.toParser frame hp h).2.1]
    exact F.keepsPointsNum p frame packet hr

lemma decodePacket_announces (hu : u.parser.isSome) (hr : F.Received packet)
    (hnum : (u.decodePacket env F.toParser frame packet).val.frame.packetNum = frame.packetNum + 1) :
    (u.decodePacket env F.toParser frame packet).val.frame.perPointsNum = F.pointNum packet := by
  obtain hframe | ⟨p, hframe⟩ := decodePacket_frame_cases env F.toParser frame packet hu
  · rw [hframe] at hnum
    exact absurd hnum.symm (Nat.succ_ne_self _)
  · rw [hframe] at hnum ⊢
    exact F.announces p frame packet hr hnum

lemma decodePacket_pointIndex (hr : F.Received packet) (hn : frame.packetNum < kMaxPacketNumPerFrame)
    (hsmall : (u.decodePacket env F.toParser frame packet).val.frame.packetNum = frame.packetNum + 1 →
      F.pointNum packet ≤ kMaxPointsNumPerPacket) :
    AllLog (Bounds.Allows { pointData := (· < kMaxPointsNumPerFrame) })
      (u.decodePacket env F.toParser frame packet) := by
  by_cases h : packet.packetLen < 6
  · rw [decodePacket, if_pos h]
    exact allLog_pure _
  cases hp : u.parser with
  | none =>
    rw [decodePacket, if_neg h]
    simp [hp]
  | some p =>
    obtain ⟨-, hframe, -, -⟩ := decodePacket_val_of_some env F.toParser frame hp h
    rw [hframe] at hsmall
    have hd := F.pointIndex p frame packet hr hn hsmall
    rw [decodePacket, if_neg h]
    simp only [hp, allLog_bind, allLog_pure, and_true]
    refine ⟨hd, ?_⟩
    split_ifs
    · simp only [synchronize]
      split_ifs <;> simp [Bounds.Allows]
    · exact allLog_pure _

lemma computeXYZI_pointIndex {P : ℕ → Prop} {packetIndex : ℕ} :
    AllLog (Bounds.Allows { pointData := P }) (u.computeXYZI F.toParser frame packetIndex) := by
  rw [computeXYZI]
  cases u.parser with
  | none => exact allLog_pure _
  | some p => exact F.computesPoints p frame packetIndex P

end UdpParser

section Parsers

variable (env : Environment) (Pt Fault : Type) [Point Pt]

def udp26Capacity : CapacityParser (EtParser ETCorrections) Pt Fault where
  toFramingParser := (EtParser.gated _ (udp26_guards env Pt Fault)).framing
  pointNum packet := (V26.Header.headerAt env packet).perPointsNum
  keepsPointsNum p frame packet _ := by
    show (Udp26Parser.decodePacket env packet p frame).val.frame.pointsNum = frame.pointsNum
    by_cases h : p.getCorrectionFile = true ∧ Delimited env packet
    · rw [Udp26Parser.decodePacket_val frame h.1 h.2]
      simp only [EtParser.decodeMessage, val_bind, val_pure, storeSensorTimestamp_val]
    · rw [Udp26Parser.decodePacket, EtParser.guarded_val, if_neg h]
  announces p frame packet _ hnum := by
    obtain ⟨hc, hd⟩ := (EtParser.gated _ (udp26_guards env Pt Fault)).counted.mp hnum
    exact Udp26Parser.decodePacket_perPointsNum frame hc hd
  pointIndex p frame packet _ hn hsmall := by
    have hread : AllLog (Bounds.Allows { pointData := (· < kMaxPointsNumPerFrame) }) (V26.Header.read env packet) := by
      simp only [V26.Header.read, allLog_bind, allows_readU8, allows_readU16, implies_true, allLog_pure, and_self]
    refine (allows_afterTests trivial trivial).mpr fun h => allLog_bind.mpr ⟨hread, ?_⟩
    refine EtParser.allows_decodeMessage (allows_filled.mpr (Udp26Parser.filled_below hn (hsmall ?_)))
    exact (EtParser.gated _ (udp26_guards env Pt Fault)).counted.mpr h
  computesPoints _ _ _ _ := allLog_fillRow _ _ _ fun _ => trivial

variable {Fault} (faultMessage43 faultMessage47 : UdpPacket → Fault → Fault)

/-- Every class, with the points that the header of a packet announces. -/
def parserCapacity : ∀ type, CapacityParser (ParserState type) Pt Fault
  | .udpP40 => (udpP40Walking env Pt Fault).storing.capacity
  | .udpP64 => (udpP64Walking env Pt Fault).storing.capacity
  | .udp14 => (udp14Storing env Pt Fault).capacity
  | .udp24 => (udp24Storing env Pt Fault).capacity
  | .udp25 => (udp25Storing env Pt Fault).capacity
  | .udp26 => udp26Capacity env Pt Fault
  | .udp31 => (udp31Walking env Pt Fault).storing.capacity
  | .udp32 => (udp32Walking env Pt Fault).storing.capacity
  | .udp43 => (udp43Storing env Pt Fault faultMessage43).capacity
  | .udp47 => (udp47Storing env Pt Fault faultMessage47).capacity
  | .udp61 => (udp61Storing env Pt Fault).capacity
  | .udp72 => (udp72Storing env Pt Fault).capacity

end Parsers

end HesaiSdk.Parsing
