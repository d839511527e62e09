import HesaiSdk.UdpParser.Cloud
import HesaiSdk.UdpParser.Gated

/-! What the parsers of the QT64, the QT128, the Pandar40 and the Pandar64 have in common, and the points that their
packets stand for. -/

namespace HesaiSdk.Parsing

open Library Library.BlockWalk Lidar UdpProtocol

variable {σ Pt Fault : Type}

/-- What such a parser reads off a packet. -/
structure WalkedFormat where
  Opens : UdpPacket → Prop
  layout : UdpPacket → BodyLayout
  distanceUnit : UdpPacket → ℚ
  lidarTime : UdpPacket → UInt64

def WalkedFormat.shape (m : WalkedFormat) (packet : UdpPacket) : Shape :=
  ⟨(m.layout packet).blockNum, (m.layout packet).laserNum, m.distanceUnit packet, 0⟩

/-- Unit `j` of a packet, where no firetime file moves its azimuth. The confidence is not in its point. -/
def mechanicalDatum (env : Environment) (packet : UdpPacket) (l : BodyLayout) (j : ℕ) : PointDecodeData :=
  let block := l.offset + (l.headSize + l.unitSize * l.laserNum) * (j / l.laserNum)
  let unit := block + l.headSize + l.unitSize * (j % l.laserNum)
  { azimuth := (readU16 env packet (block + l.azimuthAt)).val.toNat
    elevation := 0
    distances := (readU16 env packet unit).val
    reflectivities := byteAt env packet (unit + 2)
    confidence := 0
    chnIndex := 0
    mirrorIndex := 0 }

/-- What a point is made of. -/
structure Measures (data slot : PointDecodeData) : Prop where
  azimuth : slot.azimuth = data.azimuth
  distances : slot.distances = data.distances
  reflectivities : slot.reflectivities = data.reflectivities

section Walk

variable {env : Environment} {packet : UdpPacket} {l : BodyLayout} {fireTimes : FireTimes} {rotationFlag : ℤ}
  {store : ℕ → PointDecodeData → Logged DecodeEvent PointDecodeData} {packetNum : ℕ}
  {pointData : ℕ → PointDecodeData}

lemma mechanicalWalk_measures {shape : Shape} (hfire : ∀ b j, fireTimes b j = none)
    (hstore : ∀ o slot, Measures slot (store o slot).val) (hblock : shape.blockNum = l.blockNum)
    (hlaser : shape.laserNum = l.laserNum) {j : ℕ} (hj : j < shape.pointNum) :
    Measures (mechanicalDatum env packet l j)
      ((mechanicalWalk env packet l fireTimes rotationFlag store packetNum pointData).val.1.slots
        (packetNum * shape.pointNum + j)) := by
  rw [mechanicalWalk, BlockReader.walk_val, ← hblock, ← hlaser]
  dsimp only
  rw [filled_slot hj, hlaser]
  simp only [BlockReader.unitAt, BlockReader.headAt, BlockReader.blockOffset, mechanicalReader, val_bind, val_pure, hfire,
    unitAzimuth]
  obtain ⟨hazimuth, hdistances, hreflectivities⟩ := hstore _ _
  exact ⟨hazimuth, hdistances, hreflectivities⟩

lemma mechanicalWalk_of_not_slot {shape : Shape} (hblock : shape.blockNum = l.blockNum)
    (hlaser : shape.laserNum = l.laserNum) {i : ℕ} (hi : ¬shape.Slot packetNum i) :
    (mechanicalWalk env packet l fireTimes rotationFlag store packetNum pointData).val.1.slots i = pointData i := by
  rw [mechanicalWalk, BlockReader.walk_val, ← hblock, ← hlaser]
  exact filled_of_not_slot _ hi

end Walk

namespace ComputeForm

variable [Point Pt] {form : ComputeForm Pt} {env : Environment} {p : Calibration} {frame frame' : LidarDecodedFrame Pt}
  {packetIndex : ℕ}

lemma computeXYZI_log : (form.computeXYZI env p frame packetIndex).log =
    (List.range' (packetIndex * frame.perPointsNum) (frame.blockNum * frame.laserNum)).map .point := by
  rw [computeXYZI, fillGrid_log]
  exact fun b _ => rfl

lemma computeXYZI_val (k : ℕ) : (form.computeXYZI env p frame packetIndex).val k =
    if packetIndex * frame.perPointsNum ≤ k ∧
        k < packetIndex * frame.perPointsNum + frame.blockNum * frame.laserNum then
      form.computePoint env p frame packetIndex k ((k - packetIndex * frame.perPointsNum) % frame.laserNum)
        (frame.points k)
    else frame.points k := by
  rw [computeXYZI, fillGrid_val, grid]
  split_ifs with hk
  · have hrow := Nat.div_add_mod' (k - packetIndex * frame.perPointsNum) frame.laserNum
    have hindex : packetIndex * frame.perPointsNum +
        (k - packetIndex * frame.perPointsNum) / frame.laserNum * frame.laserNum +
        (k - packetIndex * frame.perPointsNum) % frame.laserNum = k := by omega
    simp only [hindex]
  · rfl

section Shaped

variable {shape : Shape} {k i : ℕ}

lemma computeXYZI_of_not_slot (h : HasShape shape frame) (hi : ¬shape.Slot k i) :
    (form.computeXYZI env p frame k).val i = frame.points i := by
  rw [computeXYZI_val, if_neg (h.slot_iff.not.mp hi)]

lemma computeXYZI_count (h : HasShape shape frame) :
    (form.computeXYZI env p frame k).log.count (.point i) = if shape.Slot k i then 1 else 0 := by
  rw [computeXYZI_log, count_points]
  simp only [h.slot_iff]

lemma computeXYZI_congr (hunit : form.distanceUnit frame = form.distanceUnit frame') (h : HasShape shape frame)
    (h' : HasShape shape frame') (hi : shape.Slot k i) (hs : SameInput shape k i frame frame') :
    (form.computeXYZI env p frame k).val i = (form.computeXYZI env p frame' k).val i := by
  rw [computeXYZI_val, computeXYZI_val, if_pos (h.slot_iff.mp hi), if_pos (h'.slot_iff.mp hi), h.perPointsNum,
    h'.perPointsNum, h.laserNum, h'.laserNum, hs.points]
  simp only [computePoint, pointAngles, hs.pointData i hi, hs.sensorTimestamp, hs.config, hunit]

end Shaped

end ComputeForm

/-- `draw` for a parser that leaves the confidence out. -/
def CloudSetup.drawPlain [Point Pt] (env : Environment) (setup : CloudSetup) (distanceUnit : ℚ) (timestamp : UInt64)
    (data : PointDecodeData) (ring : ℕ) (point : Pt) : Pt :=
  let angles := setup.calibration.pointAngles env (fun _ => 0) distanceUnit data ring
  setup.calibration.fillPlainPoint env setup.config data timestamp angles.1 angles.2.1 angles.2.2 ring point

lemma CloudSetup.drawPlain_congr [Point Pt] {env : Environment} {setup : CloudSetup} {distanceUnit : ℚ}
    {timestamp : UInt64} {data slot : PointDecodeData} (h : Measures data slot) (ring : ℕ) (point : Pt) :
    setup.drawPlain env distanceUnit timestamp slot ring point =
      setup.drawPlain env distanceUnit timestamp data ring point := by
  simp only [drawPlain, Calibration.pointAngles, Calibration.fillPlainPoint, h.azimuth, h.distances, h.reflectivities]

/-- What `decodePacket` makes of a packet that it accepts. -/
structure Walked (env : Environment) (m : WalkedFormat) (getFiretimeFile : Bool) (packet : UdpPacket)
    (frame frame' : LidarDecodedFrame Pt) : Prop extends Stored (m.shape packet) frame frame' where
  packetNum : frame'.packetNum = frame.packetNum + 1
  useTimestampType : frame'.useTimestampType = frame.useTimestampType
  stamp : frame'.sensorTimestamp frame.packetNum =
    if frame.useTimestampType = 0 then m.lidarTime packet else packet.recvTimestamp
  measures : getFiretimeFile = false → ∀ j < (m.shape packet).pointNum,
    Measures (mechanicalDatum env packet (m.layout packet) j)
      (frame'.pointData (frame.packetNum * (m.shape packet).pointNum + j))

/-- Such a parser: the two outcomes of `decodePacket`, its accesses, and the form of `computeXYZI`. -/
structure WalkingParser (env : Environment) (m : WalkedFormat) (σ Pt Fault : Type) [Point Pt]
    extends Parser σ Pt Fault where
  calibration : σ → Calibration
  form : ComputeForm Pt
  computes : ∀ p, computeXYZI p = form.computeXYZI env (calibration p)
  plain : form.spot = (fun _ _ => 0) ∧ form.confidence = false
  unit_eq : ∀ frame packet, frame.distanceUnit = m.distanceUnit packet → form.distanceUnit frame = m.distanceUnit packet
  unit_congr : ∀ frame frame', frame.distanceUnit = frame'.distanceUnit →
    form.distanceUnit frame = form.distanceUnit frame'
  rejects : ∀ p frame packet, ¬((calibration p).getCorrectionFile = true ∧ m.Opens packet) →
    (decodePacket p frame packet).val = ⟨-1, p, frame⟩
  accepts : ∀ p frame packet, (calibration p).getCorrectionFile = true ∧ m.Opens packet →
    let d := (decodePacket p frame packet).val
    d.ret = 0 ∧ calibration d.parser = calibration p ∧
      Walked env m (calibration p).getFiretimeFile packet frame d.frame
  stamps : ∀ p frame packet,
    AllLog (Bounds.Allows { sensorTimestamp := (· = frame.packetNum) }) (decodePacket p frame packet)
  writes : ∀ p frame packet (P : ℕ → Prop),
    AllLog (Bounds.Allows { pointData := P }) (decodePacket p frame packet) ↔
      ((calibration p).getCorrectionFile = true ∧ m.Opens packet →
        ∀ i, (m.shape packet).Slot frame.packetNum i → P i)

namespace WalkingParser

variable {env : Environment} {m : WalkedFormat} [Point Pt] (M : WalkingParser env m σ Pt Fault) {p : σ}
  {frame : LidarDecodedFrame Pt} {packet : UdpPacket}

def Accepts (m : WalkedFormat) (c : Calibration) (packet : UdpPacket) : Prop :=
  c.getCorrectionFile = true ∧ m.Opens packet

lemma cases (p : σ) (frame : LidarDecodedFrame Pt) (packet : UdpPacket) :
    let d := (M.decodePacket p frame packet).val
    ¬Accepts m (M.calibration p) packet ∧ d = ⟨-1, p, frame⟩ ∨
      Accepts m (M.calibration p) packet ∧ d.ret = 0 ∧ M.calibration d.parser = M.calibration p ∧
        Walked env m (M.calibration p).getFiretimeFile packet frame d.frame := by
  by_cases h : Accepts m (M.calibration p) packet
  · exact Or.inr ⟨h, M.accepts p frame packet h⟩
  · exact Or.inl ⟨h, M.rejects p frame packet h⟩

lemma counted (p : σ) (frame : LidarDecodedFrame Pt) (packet : UdpPacket) :
    (M.decodePacket p frame packet).val.frame.packetNum = frame.packetNum + 1 ↔
      Accepts m (M.calibration p) packet := by
  obtain ⟨hrefused, hd⟩ | ⟨haccepted, -, -, hwalked⟩ := M.cases p frame packet
  · rw [hd]
    exact iff_of_false (Nat.succ_ne_self _).symm hrefused
  · exact iff_of_true hwalked.packetNum haccepted

def framing : FramingParser σ Pt Fault where
  toParser := M.toParser
  Received _ := True
  counts p frame packet _ := by
    obtain ⟨-, hd⟩ | ⟨-, hret, -, hwalked⟩ := M.cases p frame packet
    · rw [hd]
      exact Or.inl ⟨show (-1 : ℤ) ≠ 0 by decide, rfl⟩
    · exact Or.inr (Or.inl ⟨hret, hwalked.packetNum⟩)
  acceptsAgain p frame packet _ := by
    intro d _ hnum frame'
    have haccepted := (M.counted p frame packet).mp hnum
    have hcalibration := (M.accepts p frame packet haccepted).2.1
    obtain ⟨hret, -, hwalked⟩ := M.accepts d.parser frame' packet (by rw [hcalibration]; exact haccepted)
    exact ⟨hret, hwalked.packetNum⟩
  stampIndex := M.stamps
  computeIndex p frame packetIndex := by
    rw [M.computes]
    exact allLog_fillGrid _ _ _ fun _ => trivial

def storing : StoringParser σ Pt Fault where
  toFramingParser := M.framing
  shape := m.shape
  rejected p frame packet _ := by
    intro d hnum
    obtain ⟨-, hd⟩ | ⟨-, -, -, hwalked⟩ := M.cases p frame packet
    · have hframe : d.frame = frame := congrArg Decoded.frame hd
      rw [hframe]
    · exact absurd (hwalked.packetNum.symm.trans hnum) (Nat.succ_ne_self _)
  accepted p frame packet _ := by
    intro d hnum
    exact (M.accepts p frame packet ((M.counted p frame packet).mp hnum)).2.2.toStored
  pointIndex p frame packet _ P := by
    show ((M.decodePacket p frame packet).val.frame.packetNum = frame.packetNum + 1 → _) →
      AllLog _ (M.decodePacket p frame packet)
    rw [M.writes, M.counted]
    exact id
  computesPoints p frame packetIndex P := by
    show AllLog _ (M.computeXYZI p frame packetIndex)
    rw [M.computes]
    exact allLog_fillGrid _ _ _ fun _ => trivial

def points : PointParser σ Pt Fault Calibration where
  toShapedParser := M.storing.toShapedParser
  calibration := M.calibration
  keepsCalibration p frame packet := by
    show M.calibration (M.decodePacket p frame packet).val.parser = M.calibration p
    obtain ⟨-, hd⟩ | ⟨-, -, hcalibration, -⟩ := M.cases p frame packet
    · rw [hd]
    · exact hcalibration
  computes shape k i p p' frame frame' hc h h' hi hs := by
    show (M.computeXYZI p frame k).val i = (M.computeXYZI p' frame' k).val i
    rw [M.computes, M.computes, hc]
    have hunit := M.unit_congr frame frame' (h.distanceUnit.trans h'.distanceUnit.symm)
    exact ComputeForm.computeXYZI_congr hunit (h.hasShape fun _ => rfl) (h'.hasShape fun _ => rfl) hi hs
  computesSlots shape k i p frame h hi := by
    show (M.computeXYZI p frame k).val i = _
    rw [M.computes]
    exact ComputeForm.computeXYZI_of_not_slot (h.hasShape fun _ => rfl) hi
  written _ _ _ _ _ := true
  writtenFrom _ _ _ _ _ _ _ _ := rfl
  writesOnce shape k i p frame h := by
    show (M.computeXYZI p frame k).log.count _ = _
    rw [M.computes]
    exact (ComputeForm.computeXYZI_count (h.hasShape fun _ => rfl)).trans (by simp only [and_true])

section Cloud

def Image (env : Environment) (m : WalkedFormat) (setup : CloudSetup) (packet : UdpPacket) (j : ℕ) (point : Pt) :
    Prop :=
  setup.calibration.getFiretimeFile = false → ∃ old, point =
    setup.drawPlain env (m.distanceUnit packet) (setup.stamp (m.lidarTime packet) packet)
      (mechanicalDatum env packet (m.layout packet) j) (j % (m.layout packet).laserNum) old

variable {M}

lemma draws {d : Decoded σ Pt} (hd : d = (M.decodePacket p frame packet).val)
    (haccepted : Accepts m (M.calibration p) packet) (points : ℕ → Pt) {j : ℕ} (hj : j < (m.shape packet).pointNum) :
    Image env m ⟨M.calibration p, frame.config, frame.useTimestampType⟩ packet j
      ((M.computeXYZI d.parser { d.frame with points := points } frame.packetNum).val
        (frame.packetNum * (m.shape packet).pointNum + j)) := by
  obtain ⟨-, hcalibration, hwalked⟩ := M.accepts p frame packet haccepted
  rw [← hd] at hcalibration hwalked
  intro hfire
  have hshape : HasShape (m.shape packet) { d.frame with points := points } :=
    ⟨hwalked.blockNum, hwalked.laserNum, hwalked.distanceUnit, hwalked.perPointsNum⟩
  have hunit : M.form.distanceUnit { d.frame with points := points } = m.distanceUnit packet :=
    M.unit_eq _ packet hwalked.distanceUnit
  have hslot : (m.shape packet).Slot frame.packetNum (frame.packetNum * (m.shape packet).pointNum + j) :=
    ⟨by omega, by omega⟩
  obtain ⟨hspot, hconfidence⟩ := M.plain
  rw [M.computes, ComputeForm.computeXYZI_val, if_pos (hshape.slot_iff.mp hslot), hshape.perPointsNum, hshape.laserNum,
    Nat.add_sub_cancel_left, ComputeForm.computePoint, ComputeForm.pointAngles, hunit, hcalibration, hspot, hconfidence,
    if_pos haccepted.1, if_neg (by decide)]
  refine ⟨points (frame.packetNum * (m.shape packet).pointNum + j), ?_⟩
  rw [← CloudSetup.drawPlain_congr (hwalked.measures hfire j hj), CloudSetup.drawPlain, hwalked.config, hwalked.stamp]
  rfl

end Cloud

end WalkingParser

end HesaiSdk.Parsing
