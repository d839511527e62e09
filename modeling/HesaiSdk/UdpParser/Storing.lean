import HesaiSdk.UdpParser.Framing

namespace HesaiSdk.Parsing

open Library Library.BlockWalk Lidar UdpProtocol

/-- `laserNum` is the number of slots of a block, of which the 2.6 packets have some for second returns. -/
structure Shape where
  blockNum : ℕ
  laserNum : ℕ
  distanceUnit : ℚ
  secondNum : ℕ
deriving DecidableEq, Inhabited

namespace Shape

def pointNum (shape : Shape) : ℕ := shape.blockNum * shape.laserNum

def Slot (shape : Shape) (packetNum i : ℕ) : Prop :=
  packetNum * shape.pointNum ≤ i ∧ i < packetNum * shape.pointNum + shape.pointNum

instance (shape : Shape) (packetNum i : ℕ) : Decidable (shape.Slot packetNum i) :=
  inferInstanceAs (Decidable (_ ∧ _))

variable {shape : Shape}

lemma forall_block {P : ℕ → Prop} {k : ℕ} :
    (∀ b < shape.blockNum, ∀ j < shape.laserNum,
      P (k * shape.blockNum * shape.laserNum + shape.laserNum * b + j)) ↔ ∀ i, shape.Slot k i → P i := by
  simp only [Slot, pointNum, ← Nat.mul_assoc]
  constructor
  · rintro h i ⟨hge, hlt⟩
    obtain ⟨m, rfl⟩ := Nat.exists_eq_add_of_le hge
    have hm : m < shape.laserNum * shape.blockNum := by
      rw [Nat.mul_comm shape.laserNum]
      omega
    have hpos : 0 < shape.laserNum := Nat.pos_of_mul_pos_right (Nat.zero_lt_of_lt hm)
    have hp := h (m / shape.laserNum) (Nat.div_lt_of_lt_mul hm) (m % shape.laserNum) (Nat.mod_lt _ hpos)
    rwa [Nat.add_assoc, Nat.div_add_mod] at hp
  · intro h b hb j hj
    have hbj : shape.laserNum * b + shape.laserNum ≤ shape.blockNum * shape.laserNum := by
      rw [← Nat.mul_succ, Nat.mul_comm]
      exact Nat.mul_le_mul_right _ hb
    exact h _ ⟨by omega, by omega⟩

lemma slots_below_iff : (∀ k < kMaxPacketNumPerFrame, ∀ i, shape.Slot k i → i < kMaxPointsNumPerFrame) ↔
    shape.pointNum ≤ kMaxPointsNumPerPacket := by
  simp only [kMaxPointsNumPerFrame, kMaxPointsNumPerPacket, kMaxPacketNumPerFrame, Slot]
  constructor
  · intro h
    by_contra hn
    have := h 4999 (by omega) (4999 * shape.pointNum + (shape.pointNum - 1)) ⟨by omega, by omega⟩
    omega
  · rintro h k hk i ⟨-, hi⟩
    have : k * shape.pointNum + shape.pointNum ≤ 5000 * 512 := by
      rw [← Nat.succ_mul]
      exact Nat.mul_le_mul hk h
    omega

lemma slot_unique {k k' i : ℕ} (h : shape.Slot k i) (h' : shape.Slot k' i) : k = k' := by
  have hlt (a b : ℕ) (ha : a * shape.pointNum ≤ i) (hb : i < b * shape.pointNum + shape.pointNum) : a ≤ b := by
    rw [← Nat.succ_mul] at hb
    exact Nat.le_of_lt_succ (Nat.lt_of_mul_lt_mul_right (lt_of_le_of_lt ha hb))
  exact Nat.le_antisymm (hlt k k' h.1 h'.2) (hlt k' k h'.1 h.2)

end Shape

variable {σ Pt Fault : Type}

/-- An accepted packet of a shape takes its slots of a frame and sets the shape of all. -/
structure Stored (shape : Shape) (frame frame' : LidarDecodedFrame Pt) : Prop where
  blockNum : frame'.blockNum = shape.blockNum
  laserNum : frame'.laserNum + shape.secondNum = shape.laserNum
  distanceUnit : frame'.distanceUnit = shape.distanceUnit
  perPointsNum : frame'.perPointsNum = shape.pointNum
  points : frame'.points = frame.points
  pointsNum : frame'.pointsNum = frame.pointsNum
  config : frame'.config = frame.config
  sensorTimestamp : ∀ i ≠ frame.packetNum, frame'.sensorTimestamp i = frame.sensorTimestamp i
  pointData : ∀ k ≠ frame.packetNum, ∀ i, shape.Slot k i → frame'.pointData i = frame.pointData i

lemma Shape.otherSlots {shape : Shape} {m : ℕ} {pointData pointData' : ℕ → PointDecodeData}
    (h : ∀ i, ¬shape.Slot m i → pointData' i = pointData i) :
    ∀ k ≠ m, ∀ i, shape.Slot k i → pointData' i = pointData i :=
  fun _ hk i hi => h i fun hm => hk (slot_unique hi hm)

structure ShapedParser (σ Pt Fault : Type) extends FramingParser σ Pt Fault where
  shape : UdpPacket → Shape
  rejected : ∀ p frame packet, Received packet →
    let d := (decodePacket p frame packet).val
    d.frame.packetNum = frame.packetNum → d.frame = { frame with scanComplete := d.frame.scanComplete }
  accepted : ∀ p frame packet, Received packet →
    let d := (decodePacket p frame packet).val
    d.frame.packetNum = frame.packetNum + 1 → Stored (shape packet) frame d.frame

structure StoringParser (σ Pt Fault : Type) extends ShapedParser σ Pt Fault where
  pointIndex : ∀ p frame packet, Received packet → ∀ P : ℕ → Prop,
    ((decodePacket p frame packet).val.frame.packetNum = frame.packetNum + 1 →
      ∀ i, (shape packet).Slot frame.packetNum i → P i) →
    AllLog (Bounds.Allows { pointData := P }) (decodePacket p frame packet)
  computesPoints : ∀ p frame packetIndex P,
    AllLog (Bounds.Allows { pointData := P }) (computeXYZI p frame packetIndex)

namespace UdpParser

variable {env : Environment} {F : ShapedParser σ Pt Fault} {u : UdpParser σ} {frame : LidarDecodedFrame Pt}
  {packet : UdpPacket}

lemma decodePacket_rejected (hu : u.parser.isSome) (hr : F.Received packet) :
    let e := (u.decodePacket env F.toParser frame packet).val
    e.frame.packetNum = frame.packetNum → e.frame = { frame with scanComplete := e.frame.scanComplete } := by
  dsimp only
  obtain hframe | ⟨p, hframe⟩ := decodePacket_frame_cases env F.toParser frame packet hu
  · rw [hframe]
    exact fun _ => rfl
  · rw [hframe]
    exact F.rejected p frame packet hr

lemma decodePacket_accepted (hu : u.parser.isSome) (hr : F.Received packet) :
    let e := (u.decodePacket env F.toParser frame packet).val
    e.frame.packetNum = frame.packetNum + 1 → Stored (F.shape packet) frame e.frame := by
  dsimp only
  obtain hframe | ⟨p, hframe⟩ := decodePacket_frame_cases env F.toParser frame packet hu
  · rw [hframe]
    exact fun h => absurd h.symm (Nat.succ_ne_self _)
  · rw [hframe]
    exact F.accepted p frame packet hr

end UdpParser

section Walk

variable {Head Acc : Type} (r : BlockReader DecodeEvent PointDecodeData Head Acc)

lemma filled_of_not_slot {shape : Shape} {packetNum o i : ℕ} {s : ℕ → PointDecodeData}
    (h : ¬shape.Slot packetNum i) :
    r.filled shape.laserNum shape.blockNum o (packetNum * shape.blockNum * shape.laserNum) s i = s i := by
  simp only [Shape.Slot, Shape.pointNum, ← Nat.mul_assoc, not_and_or, not_le, not_lt] at h
  rcases h with h | h
  · exact r.filled_of_lt h
  · rw [Nat.mul_comm shape.blockNum] at h
    exact r.filled_of_ge h

end Walk

section Parsers

variable (env : Environment)

def Udp14Parser.shape (packet : UdpPacket) : Shape :=
  let h := V14.headerAt env packet
  ⟨h.getBlockNum, h.getLaserNum, h.getDistUnit, 0⟩

def Udp61Parser.shape (packet : UdpPacket) : Shape :=
  let h := V61.headerAt env packet
  ⟨h.getBlockNum, h.getLaserNum, h.getDistUnit, 0⟩

def Udp43Parser.shape (packet : UdpPacket) : Shape :=
  let h := V43.headerAt env packet
  ⟨h.getBlockNum, h.getLaserNum, h.getDistUnit, 0⟩

variable {env} {packet : UdpPacket} {frame : LidarDecodedFrame Pt}

lemma Udp14Parser.decodeBody_stored (p : Udp14Parser) : Stored (Udp14Parser.shape env packet) frame
    (Udp14Parser.decodeBody env packet (V14.headerAt env packet) p frame).val.frame := by
  simp only [Udp14Parser.decodeBody, val_bind, val_pure, storeSensorTimestamp_val, BlockReader.walk_val]
  refine ⟨rfl, rfl, rfl, rfl, rfl, rfl, rfl, fun i hi => Function.update_of_ne hi _ _, Shape.otherSlots ?_⟩
  exact fun i hi => filled_of_not_slot _ hi

lemma Udp61Parser.decodeBody_stored (p : GeneralParser) : Stored (Udp61Parser.shape env packet) frame
    (Udp61Parser.decodeBody env packet (V61.headerAt env packet) p frame).val.frame := by
  simp only [Udp61Parser.decodeBody, val_bind, val_pure, storeSensorTimestamp_val, BlockReader.walk_val]
  refine ⟨rfl, rfl, rfl, rfl, rfl, rfl, rfl, fun i hi => Function.update_of_ne hi _ _, Shape.otherSlots ?_⟩
  exact fun i hi => filled_of_not_slot _ hi

lemma Udp43Parser.decodeBody_stored (p : Udp43Parser) : Stored (Udp43Parser.shape env packet) frame
    (Udp43Parser.decodeBody env packet (V43.headerAt env packet) p frame).val.frame := by
  simp only [Udp43Parser.decodeBody, val_bind, val_pure, storeSensorTimestamp_val, BlockReader.walk_val]
  refine ⟨rfl, rfl, rfl, rfl, rfl, rfl, rfl, fun i hi => Function.update_of_ne hi _ _, Shape.otherSlots ?_⟩
  exact fun i hi => filled_of_not_slot _ hi

lemma Udp61Parser.allows_slots {p : GeneralParser} {P : ℕ → Prop} :
    AllLog (Bounds.Allows { pointData := P }) (decodePacket env packet p frame) ↔
      ((decodePacket env packet p frame).val.frame.packetNum = frame.packetNum + 1 →
        ∀ i, (shape env packet).Slot frame.packetNum i → P i) := by
  rw [Udp61Parser.allows_decodePacket, Udp61Parser.decodePacket_packetNum, ← Shape.forall_block]
  simp only [true_and]
  rfl

variable (env) (Pt Fault : Type) [Point Pt]

def udp14Storing : StoringParser Udp14Parser Pt Fault where
  toFramingParser := udp14Framing env Pt Fault
  shape := Udp14Parser.shape env
  rejected p frame packet _ := by
    simp only [udp14Framing, udp14, Udp14Parser.decodePacket_val]
    split
    · exact fun h => absurd h (Nat.succ_ne_self _)
    · exact fun _ => rfl
  accepted p frame packet _ := by
    simp only [udp14Framing, udp14, Udp14Parser.decodePacket_val]
    split
    · exact fun _ => Udp14Parser.decodeBody_stored p
    · exact fun h => absurd h.symm (Nat.succ_ne_self _)
  pointIndex p frame packet _ P := by
    show ((p.decodePacket env packet frame).val.frame.packetNum = frame.packetNum + 1 → _) →
      AllLog _ (p.decodePacket env packet frame)
    rw [Udp14Parser.allows_decodePacket trivial trivial, Udp14Parser.decodePacket_packetNum,
      Udp14Parser.decodePacket_ret, ← Shape.forall_block, Udp14Parser.allows_decodeBody]
    simp only [Udp14Parser.bodyBytes_true, implies_true, true_and, and_imp]
    exact id
  computesPoints _ _ _ _ := allLog_fillGrid _ _ _ fun _ => trivial

def udp61Storing : StoringParser GeneralParser Pt Fault where
  toFramingParser := udp61Framing env Pt Fault
  shape := Udp61Parser.shape env
  rejected p frame packet _ := by
    simp only [udp61Framing, udp61, Udp61Parser.decodePacket_val]
    split
    · exact fun h => absurd h (Nat.succ_ne_self _)
    · exact fun _ => rfl
  accepted p frame packet _ := by
    simp only [udp61Framing, udp61, Udp61Parser.decodePacket_val]
    split
    · exact fun _ => Udp61Parser.decodeBody_stored p
    · exact fun h => absurd h.symm (Nat.succ_ne_self _)
  pointIndex _ _ _ _ _ := Udp61Parser.allows_slots.mpr
  computesPoints _ _ _ _ := allLog_fillGrid _ _ _ fun _ => trivial

def udp43Storing (parserFaultMessage : UdpPacket → Fault → Fault) : StoringParser Udp43Parser Pt Fault where
  toFramingParser := udp43Framing env Pt Fault parserFaultMessage
  shape := Udp43Parser.shape env
  rejected p frame packet _ := by
    by_cases he : Udp43Parser.EndsFrame packet p
    · simp only [udp43Framing, udp43, Udp43Parser.decodePacket_of_endsFrame _ _ _ _ he, val_pure]
      exact fun _ => trivial
    · simp only [udp43Framing, udp43, Udp43Parser.decodePacket_val _ _ _ _ he]
      split
      · exact fun h => absurd h (Nat.succ_ne_self _)
      · exact fun _ => rfl
  accepted p frame packet _ := by
    by_cases he : Udp43Parser.EndsFrame packet p
    · simp only [udp43Framing, udp43, Udp43Parser.decodePacket_of_endsFrame _ _ _ _ he, val_pure]
      exact fun h => absurd h.symm (Nat.succ_ne_self _)
    · simp only [udp43Framing, udp43, Udp43Parser.decodePacket_val _ _ _ _ he]
      split
      · exact fun _ => Udp43Parser.decodeBody_stored p
      · exact fun h => absurd h.symm (Nat.succ_ne_self _)
  pointIndex p frame packet _ P := by
    show ((p.decodePacket env packet frame).val.frame.packetNum = frame.packetNum + 1 → _) →
      AllLog _ (p.decodePacket env packet frame)
    rw [Udp43Parser.allows_decodePacket, Udp43Parser.decodePacket_packetNum, ← Shape.forall_block]
    simp only [true_and, and_imp]
    exact id
  computesPoints _ _ _ _ := allLog_fillGrid _ _ _ fun _ => trivial

end Parsers

end HesaiSdk.Parsing
