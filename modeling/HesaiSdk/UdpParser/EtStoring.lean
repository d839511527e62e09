import HesaiSdk.UdpParser.Gated
import HesaiSdk.UdpParser.PointParser
import HesaiSdk.UdpParser.Udp25Layout

/-! The slots that the packets of the ET and FT lidars take. -/

namespace HesaiSdk.Parsing

open Library Library.BlockWalk Lidar UdpProtocol

section Gated

variable {σ Pt Fault : Type} (G : GatedParser σ Pt Fault)

lemma GatedParser.counted {p : σ} {frame : LidarDecodedFrame Pt} {packet : UdpPacket} :
    (G.decodePacket p frame packet).val.frame.packetNum = frame.packetNum + 1 ↔ G.opened p ∧ G.accepts packet := by
  by_cases h : G.opened p ∧ G.accepts packet
  · exact iff_of_true (G.accepted p frame packet h.1 h.2).2.2 h
  · rw [G.rejected p frame packet h]
    exact iff_of_false (Nat.succ_ne_self _).symm h

def GatedParser.shaped (shape : UdpPacket → Shape)
    (stored : ∀ p frame packet, G.opened p ∧ G.accepts packet →
      Stored (shape packet) frame (G.decodePacket p frame packet).val.frame) : ShapedParser σ Pt Fault where
  toFramingParser := G.framing
  shape := shape
  rejected p frame packet _ := by
    intro d hnum
    have hnot : ¬(G.opened p ∧ G.accepts packet) := fun h =>
      absurd (hnum.symm.trans (G.counted.mpr h)) (Nat.succ_ne_self _).symm
    have hframe : d.frame = frame := congrArg Decoded.frame (G.rejected p frame packet hnot)
    rw [hframe]
  accepted p frame packet _ hnum := stored p frame packet (G.counted.mp hnum)

def GatedParser.storing (shape : UdpPacket → Shape)
    (stored : ∀ p frame packet, G.opened p ∧ G.accepts packet →
      Stored (shape packet) frame (G.decodePacket p frame packet).val.frame)
    (pointIndex : ∀ p frame packet (P : ℕ → Prop),
      (G.opened p ∧ G.accepts packet → ∀ i, (shape packet).Slot frame.packetNum i → P i) →
      AllLog (Bounds.Allows { pointData := P }) (G.decodePacket p frame packet))
    (computesPoints : ∀ p frame packetIndex P,
      AllLog (Bounds.Allows { pointData := P }) (G.computeXYZI p frame packetIndex)) : StoringParser σ Pt Fault where
  toShapedParser := G.shaped shape stored
  pointIndex p frame packet _ P hP := pointIndex p frame packet P fun h => hP (G.counted.mpr h)
  computesPoints := computesPoints

end Gated

lemma allows_filled {α : Type} {x : Logged DecodeEvent α} {P : ℕ → Prop} :
    AllLog (Bounds.Allows { pointData := P }) x ↔ ∀ i ∈ x.log.filterMap filledSlot, P i := by
  rw [Bounds.allows_pointData]
  refine forall_congr' fun i => imp_congr_left ?_
  rw [List.mem_filterMap]
  refine ⟨fun h => ⟨_, h, rfl⟩, ?_⟩
  rintro ⟨e, he, hi⟩
  cases e with
  | pointData j =>
    obtain rfl := Option.some.inj hi
    exact he
  | _ => cases hi

/-- The header of a 2.4 or a 2.5 packet. -/
def EtParser.shape (env : Environment) (packet : UdpPacket) : Shape :=
  let h := EtHeader.headerAt env packet
  ⟨h.getBlockNum, h.getLaserNum, h.distUnit.toNat / 1000, 0⟩

section Et

variable {env : Environment} {packet : UdpPacket} {Corrections Pt Fault : Type} {shape : Shape} {k : ℕ}

namespace EtBody

variable {body : EtBody} {slots : ℕ → PointDecodeData}

lemma unitNumber_le : body.unitNumber body.blockNum 0 0 ≤ body.blockNum * body.laserNum := by
  rw [unitNumber, Nat.add_zero, Nat.add_zero, Nat.mul_assoc]
  exact Nat.mul_le_mul_left _ (Nat.mul_div_le _ _)

variable (shape) (hblock : body.blockNum = shape.blockNum) (hlaser : body.laserNum = shape.laserNum)
include hblock hlaser

lemma walk_of_not_slot {i : ℕ} (hi : ¬shape.Slot k i) :
    (body.walk env packet (k * body.blockNum * body.laserNum) slots).val i = slots i := by
  have hle := body.unitNumber_le
  rw [walk_eq]
  rw [Shape.Slot, Shape.pointNum, ← hblock, ← hlaser, not_and_or, not_le, not_lt] at hi
  rcases hi with hi | hi
  · exact fillTo_of_lt (by rwa [Nat.mul_assoc])
  · apply fillTo_of_ge
    rw [Nat.mul_assoc]
    omega

lemma allows_walk {P : ℕ → Prop} (unitReads : ℕ → List ℕ) (hP : ∀ i, shape.Slot k i → P i)
    (hunit : ∀ azimuth elevation o slot, (body.writeUnit azimuth elevation o slot).log = (unitReads o).map .byte) :
    AllLog (Bounds.Allows { pointData := P }) (body.walk env packet (k * body.blockNum * body.laserNum) slots) := by
  have hle : body.blockNum * (body.seqNum * body.perSeq) ≤ body.blockNum * body.laserNum :=
    Nat.mul_le_mul_left _ (Nat.mul_div_le _ _)
  rw [allows_filled, walk_filled hunit]
  intro i hi
  obtain ⟨hlow, hhigh⟩ := List.mem_range'_1.mp hi
  rw [Nat.mul_assoc] at hlow hhigh
  apply hP
  rw [Shape.Slot, Shape.pointNum, ← hblock, ← hlaser]
  omega

end EtBody

variable {p : EtParser Corrections} {frame : LidarDecodedFrame Pt}

lemma EtParser.decodeMessage_stored {m : EtMessage}
    {walk : (ℕ → PointDecodeData) → Logged DecodeEvent (ℕ → PointDecodeData)} (hblock : m.blockNum = shape.blockNum)
    (hlaser : m.laserNum + shape.secondNum = shape.laserNum) (hunit : m.getDistUnit = shape.distanceUnit)
    (hper : m.perPointsNum = shape.pointNum)
    (hwalk : ∀ k ≠ frame.packetNum, ∀ i, shape.Slot k i → (walk frame.pointData).val i = frame.pointData i) :
    Stored shape frame (decodeMessage env packet m p frame walk).val.frame := by
  simp only [decodeMessage, val_bind, val_pure, storeSensorTimestamp_val]
  exact ⟨hblock, hlaser, hunit, hper, rfl, rfl, rfl, fun i hi => Function.update_of_ne hi _ _, hwalk⟩

lemma EtParser.allows_decodeMessage {m : EtMessage} {P : ℕ → Prop}
    {walk : (ℕ → PointDecodeData) → Logged DecodeEvent (ℕ → PointDecodeData)}
    (hwalk : AllLog (Bounds.Allows { pointData := P }) (walk frame.pointData)) :
    AllLog (Bounds.Allows { pointData := P }) (decodeMessage env packet m p frame walk) :=
  (Around.of_byte (fun _ => trivial) trivial (fun _ => trivial) trivial).decodeMessage hwalk

lemma EtHeader.allows_read {P : ℕ → Prop} : AllLog (Bounds.Allows { pointData := P }) (EtHeader.read env packet) := by
  simp only [EtHeader.read, allLog_bind, allows_readU8, allLog_pure, and_self]

variable (env Pt Fault) [Point Pt]

def udp24Storing : StoringParser (EtParser ETCorrectionsV4) Pt Fault :=
  (EtParser.gated _ (udp24_guards env Pt Fault)).storing (EtParser.shape env)
    (by
      intro p frame packet ⟨hc, hd⟩
      show Stored _ frame (Udp24Parser.decodePacket env packet p frame).val.frame
      rw [Udp24Parser.decodePacket, EtParser.guarded_val, if_pos ⟨hc, hd⟩, val_bind]
      exact EtParser.decodeMessage_stored rfl rfl rfl rfl
        (Shape.otherSlots fun i hi => EtBody.walk_of_not_slot _ rfl rfl hi))
    (by
      intro p frame packet P hP
      refine (allows_afterTests trivial trivial).mpr fun h => allLog_bind.mpr ⟨EtHeader.allows_read, ?_⟩
      exact EtParser.allows_decodeMessage (EtBody.allows_walk (EtParser.shape env packet) rfl rfl
        (fun o => [o + 2, o + 3, o, o + 1]) (hP h) fun _ _ _ _ => rfl))
    fun _ _ _ _ => allLog_fillGrid _ _ _ fun _ => trivial

def udp25Storing : StoringParser (EtParser ETCorrections) Pt Fault :=
  (EtParser.gated _ (udp25_guards env Pt Fault)).storing (EtParser.shape env)
    (by
      intro p frame packet ⟨hc, hd⟩
      show Stored _ frame (Udp25Parser.decodePacket env packet p frame).val.frame
      rw [Udp25Parser.decodePacket, EtParser.guarded_val, if_pos ⟨hc, hd⟩, val_bind]
      refine EtParser.decodeMessage_stored rfl rfl rfl rfl (Shape.otherSlots fun i hi => ?_)
      rw [Udp25Parser.walk, val_bind]
      exact EtBody.walk_of_not_slot _ rfl rfl hi)
    (by
      intro p frame packet P hP
      refine (allows_afterTests trivial trivial).mpr fun h => allLog_bind.mpr ⟨EtHeader.allows_read, ?_⟩
      refine EtParser.allows_decodeMessage (allLog_bind.mpr ⟨allows_readU8.mpr trivial, ?_⟩)
      exact EtBody.allows_walk (EtParser.shape env packet) rfl rfl (fun o => [o + 2, o, o + 1]) (hP h)
        fun _ _ _ _ => rfl)
    fun _ _ _ _ => allLog_fillGrid _ _ _ fun _ => trivial

end Et

namespace Udp72Parser

variable {env : Environment} {packet : UdpPacket} {Pt : Type} {p : Udp72Parser} {frame : LidarDecodedFrame Pt}

variable (env) in
/-- A packet is a column. -/
def shape (packet : UdpPacket) : Shape :=
  let h := V72.headerAt env packet
  ⟨1, h.getChannelNum, h.getDistUnit, 0⟩

lemma decodeBody_stored : Stored (shape env packet) frame
    (decodeBody env packet (V72.headerAt env packet) p frame).val.frame := by
  have hper : (V72.headerAt env packet).getChannelNum = (shape env packet).pointNum := (Nat.one_mul _).symm
  simp only [decodeBody, val_bind, val_pure, storeSensorTimestamp_val, BlockReader.walk_val]
  refine ⟨rfl, rfl, rfl, hper, rfl, rfl, rfl, fun i hi => Function.update_of_ne hi _ _,
    Shape.otherSlots fun i hi => ?_⟩
  have hindex : frame.packetNum * (V72.headerAt env packet).getChannelNum =
      frame.packetNum * (shape env packet).blockNum * (shape env packet).laserNum := by
    rw [Nat.mul_assoc, hper]
    rfl
  rw [hindex]
  exact filled_of_not_slot _ hi

lemma allows_decodeBody {P : ℕ → Prop} (hP : ∀ i, (shape env packet).Slot frame.packetNum i → P i) :
    AllLog (Bounds.Allows { pointData := P }) (decodeBody env packet (V72.headerAt env packet) p frame) := by
  have hslot (j : ℕ) (hj : j < (V72.headerAt env packet).getChannelNum) :
      P (frame.packetNum * (V72.headerAt env packet).getChannelNum + j) := by
    apply hP
    rw [Shape.Slot, Shape.pointNum, show (shape env packet).blockNum = 1 from rfl, Nat.one_mul]
    exact ⟨Nat.le_add_right _ _, Nat.add_lt_add_left hj _⟩
  simp only [decodeBody, allLog_bind, allows_storeSensorTimestamp, V72.getMicroLidarTime, allows_getMicroLidarTimeU64,
    timeBytes_true, V72.readSequenceNum, V72.readColumnId, allows_readU16, allows_readU32, allLog_note, allLog_pure,
    BlockReader.allLog_walk, BlockReader.unitAt, bodyReader, V72.getReflectivity, V72.getDistance, allows_readU8,
    implies_true, true_and, and_true, Bounds.Allows]
  intro b hb j hj
  obtain rfl : b = 0 := by omega
  exact hslot j hj

end Udp72Parser

variable (env : Environment) (Pt Fault : Type) [Point Pt]

def udp72Storing : StoringParser Udp72Parser Pt Fault :=
  (udp72Gated env Pt Fault).storing (Udp72Parser.shape env)
    (by
      intro p frame packet h
      show Stored _ frame (p.decodePacket env packet frame).val.frame
      rw [Udp72Parser.decodePacket_val, if_pos (show p.getCorrectionFile = true ∧ Delimited env packet from h)]
      exact Udp72Parser.decodeBody_stored)
    (by
      intro p frame packet P hP
      have hread : AllLog (Bounds.Allows { pointData := P }) (V72.readHeader env packet) := by
        simp only [V72.readHeader, allLog_bind, allows_readU8, allows_readU16, implies_true, allLog_pure, and_self]
      exact (allows_afterTests trivial trivial).mpr fun h =>
        allLog_bind.mpr ⟨hread, Udp72Parser.allows_decodeBody (hP h)⟩)
    fun _ _ _ _ => allLog_fillRow _ _ _ fun _ => trivial

end HesaiSdk.Parsing
