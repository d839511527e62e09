import HesaiSdk.UdpParser.Compute
import HesaiSdk.UdpParser.Parser
import HesaiSdk.UdpProtocol.V43

namespace HesaiSdk.Parsing

open Library Library.BlockWalk Lidar UdpProtocol UdpProtocol.V43

def angularResolution : ℤ := 256

def marginalAngle : ℤ := 7625

def acceptanceAngle : ℕ := 200

def kAzimuthTolerance : ℕ := 1000

def correctionAzimuthNum : ℕ := 180

/-- The part of `PandarATCorrections` that a version 5 file fills. -/
structure PandarATCorrections where
  frameNumber : ℕ
  startFrame : ℕ → UInt32
  endFrame : ℕ → UInt32
  azimuth : ℕ → ℤ
  elevation : ℕ → ℤ
  azimuthOffset : ℕ → ℤ
  elevationOffset : ℕ → ℤ
deriving Inhabited

namespace PandarATCorrections

variable (c : PandarATCorrections)

def step3 : ℕ := 200 * 256

/-- `round`: halves go away from zero. -/
def round (q : ℚ) : ℤ := if 0 ≤ q then ⌊q + 1 / 2⌋ else ⌈q - 1 / 2⌉

def adjust (offset : ℕ → ℤ) (ch azi : ℕ) : ℤ :=
  let i := azi / step3
  let k : ℚ := (azi - i * step3 : ℕ) / step3
  round ((1 - k) * offset (ch * correctionAzimuthNum + i) + k * offset (ch * correctionAzimuthNum + i + 1))

def getAzimuthAdjustV3 (ch azi : ℕ) : ℤ := adjust c.azimuthOffset ch azi

def getElevationAdjustV3 (ch azi : ℕ) : ℤ := adjust c.elevationOffset ch azi

end PandarATCorrections

/-- `getCorrectionFile` of the base is shadowed in the source; it stands for the parser's own one. -/
structure Udp43Parser extends GeneralParser where
  corrections : PandarATCorrections
deriving Inhabited

structure FrameCut where
  useAngle : Bool
  lastAzimuth : ℤ
  scanComplete : Bool

structure BlockAzimuth where
  azimuth : UInt16
  fineAzimuth : UInt8

namespace Udp43Parser

variable (env : Environment) (packet : UdpPacket) (h : Header)

def isNeedFrameSplit (azimuth : UInt16) (lastAzimuth : ℤ) : Bool :=
  decide (kAzimuthTolerance < (azimuth.toNat - lastAzimuth).natAbs ∧ lastAzimuth ≠ 0)

/-- The test of the timeout markers: the last azimuth is near the end of a mirror field. -/
def nearFieldEnd (p : Udp43Parser) : Bool :=
  (List.range 3).any fun i =>
    (((p.corrections.startFrame i).toNat : ℤ) / angularResolution + marginalAngle - p.lastAzimuth).natAbs
      < acceptanceAngle

def bodyReader (g : GeneralParser) : BlockReader DecodeEvent PointDecodeData BlockAzimuth FrameCut where
  headSize := sizeofBodyAzimuth + sizeofBodyFineAzimuth
  unitSize := sizeofBodyChnUnit
  readHead _ o := do
    let azimuth ← readU16 env packet o
    let fineAzimuth ← readU8 env packet (o + sizeofBodyAzimuth)
    pure ⟨azimuth, fineAzimuth⟩
  writeUnit head j o slot := do
    let blockAzimuth : ℤ := head.azimuth.toNat * angularResolution + head.fineAzimuth.toNat
    let azimuth ← (if g.getFiretimeFile then do
        let fireTime ← g.getFiretimesCorrection j g.spinSpeed.toNat
        pure (blockAzimuth + fireTime * kAllFineResolutionFloat * 2)
      else pure (blockAzimuth : ℚ))
    let unit ← readChnUnit env packet o
    pure { slot with
      azimuth := azimuth
      distances := unit.distance
      reflectivities := unit.reflectivity
      confidence := unit.confidence }
  written := .pointData
  finishBlock head cut :=
    let cut := if isNeedFrameSplit head.azimuth cut.lastAzimuth then
        if cut.useAngle then { cut with scanComplete := true } else { cut with useAngle := true }
      else cut
    { cut with lastAzimuth := head.azimuth.toNat }

section Decode

variable {Pt : Type} (p : Udp43Parser) (frame : LidarDecodedFrame Pt)

def countSeqNum (g : GeneralParser) : Logged DecodeEvent GeneralParser :=
  if h.hasSeqNum then do
    let packetSeqnum ← readU32 env packet h.seqNumOffset
    note (.packetLoss packetSeqnum)
    pure (g.calPktLoss env packetSeqnum)
  else pure g

def decodeBody : Logged DecodeEvent (Decoded Udp43Parser Pt) := do
  let counted ← countSeqNum env packet h p.toGeneralParser
  let packetTimestamp ← getMicroLidarTime env packet h.tailOffset
  let timed := counted.calPktTimeLoss env packetTimestamp
  let motorSpeed ← readU16 env packet (h.tailOffset + 18)
  let returnMode ← readU8 env packet (h.tailOffset + 24)
  let shutdown ← readU8 env packet (h.tailOffset + 6)
  let sped := { timed.tick with spinSpeed := motorSpeed, isDualReturn := isDualReturn returnMode }
  let stamped ← storeSensorTimestamp frame packet.recvTimestamp (getMicroLidarTime env packet h.tailOffset)
  let body ← (bodyReader env packet sped).walk h.getLaserNum h.getBlockNum
    (⟨Header.bodyOffset, frame.packetNum * h.getBlockNum * h.getLaserNum, frame.pointData⟩,
      ⟨sped.useAngle, sped.lastAzimuth, false⟩)
  let cut := { sped with useAngle := body.2.useAngle, lastAzimuth := body.2.lastAzimuth }
  pure ⟨0, { p with toGeneralParser := cut },
    { stamped with
      hostTimestamp := timed.getMicroTickCountU64 env
      spinSpeed := motorSpeed
      returnMode := returnMode.toUInt16
      workMode := shutdown.toNat
      distanceUnit := h.getDistUnit
      laserNum := h.getLaserNum
      blockNum := h.getBlockNum
      perPointsNum := h.getBlockNum * h.getLaserNum
      scanComplete := body.2.scanComplete
      pointData := body.1.slots
      packetNum := frame.packetNum + 1 }⟩

def decodePacket : Logged DecodeEvent (Decoded Udp43Parser Pt) :=
  if p.getCorrectionFile = false then reject p frame
  else if packet.isTimeout ∧ p.nearFieldEnd then
    pure ⟨0, { p with useAngle := false }, { frame with scanComplete := true }⟩
  else afterDelimiter env packet p frame do
    let h ← readHeader env packet
    decodeBody env packet h p frame

def EndsFrame (packet : UdpPacket) (p : Udp43Parser) : Prop :=
  p.getCorrectionFile = true ∧ packet.isTimeout = true ∧ p.nearFieldEnd = true

lemma decodePacket_of_endsFrame (he : EndsFrame packet p) : p.decodePacket env packet frame =
    pure ⟨0, { p with useAngle := false }, { frame with scanComplete := true }⟩ := by
  rw [decodePacket, if_neg (by simp [he.1]), if_pos he.2]

lemma decodePacket_of_not_endsFrame (he : ¬EndsFrame packet p) : p.decodePacket env packet frame =
    if p.getCorrectionFile = false then reject p frame
    else afterDelimiter env packet p frame
      (readHeader env packet >>= fun h => decodeBody env packet h p frame) := by
  rw [decodePacket]
  by_cases hc : p.getCorrectionFile = true
  · rw [if_neg (by simp [hc]), if_neg fun h => he ⟨hc, h⟩, if_neg (by simp [hc])]
  · rw [if_pos (by simpa using hc), if_pos (by simpa using hc)]

lemma decodePacket_val (he : ¬EndsFrame packet p) : (p.decodePacket env packet frame).val =
    if p.getCorrectionFile = true ∧ Delimited env packet
    then (decodeBody env packet (headerAt env packet) p frame).val else ⟨-1, p, frame⟩ := by
  rw [decodePacket_of_not_endsFrame _ _ _ _ he, afterTests_val, val_bind, headerAt]

variable {env packet p frame} in
lemma decodePacket_ret (he : ¬EndsFrame packet p) : (p.decodePacket env packet frame).val.ret = 0 ↔
    p.getCorrectionFile = true ∧ Delimited env packet := by
  rw [decodePacket_of_not_endsFrame _ _ _ _ he]
  exact afterTests_ret rfl

variable {env packet p frame} in
lemma decodePacket_packetNum : (p.decodePacket env packet frame).val.frame.packetNum = frame.packetNum + 1 ↔
    (p.decodePacket env packet frame).val.ret = 0 ∧ ¬EndsFrame packet p := by
  by_cases he : EndsFrame packet p
  · simp [decodePacket_of_endsFrame _ _ _ _ he, he]
  · rw [decodePacket_val _ _ _ _ he]
    split <;> simp [decodeBody, he]

variable {env packet p frame} in
lemma decodePacket_calibration :
    (p.decodePacket env packet frame).val.parser.toCalibration = p.toCalibration := by
  by_cases he : EndsFrame packet p
  · rw [decodePacket_of_endsFrame _ _ _ _ he, val_pure]
  · rw [decodePacket_val _ _ _ _ he]
    split_ifs
    · simp only [decodeBody, val_bind, val_pure, countSeqNum]
      split <;> simp
    · rfl

section Accesses

variable {env packet h p frame} {sensorTimestamp pointData : ℕ → Prop}

lemma allows_countSeqNum {g : GeneralParser} :
    AllLog (Bounds.Allows { sensorTimestamp := sensorTimestamp, pointData := pointData })
      (countSeqNum env packet h g) := by
  rw [countSeqNum]
  split <;> simp [Bounds.Allows]

lemma allows_decodeBody :
    AllLog (Bounds.Allows { sensorTimestamp := sensorTimestamp, pointData := pointData })
        (decodeBody env packet h p frame) ↔
      sensorTimestamp frame.packetNum ∧ ∀ b < h.getBlockNum, ∀ j < h.getLaserNum,
        pointData (frame.packetNum * h.getBlockNum * h.getLaserNum + h.getLaserNum * b + j) := by
  have hu (g : GeneralParser) (head : BlockAzimuth) (j o : ℕ) (slot : PointDecodeData) :
      AllLog (Bounds.Allows { sensorTimestamp := sensorTimestamp, pointData := pointData })
        ((bodyReader env packet g).writeUnit head j o slot) := by
    simp only [bodyReader, allLog_bind, allLog_pure, readChnUnit, allows_readU16, allows_readU8,
      implies_true, and_true]
    split_ifs <;> simp [Calibration.allows_getFiretimesCorrection]
  simp only [decodeBody, allLog_bind, allows_countSeqNum, allows_storeSensorTimestamp, getMicroLidarTime,
    allows_getMicroLidarTimeU64, timeBytes_true, allows_readU16, allows_readU8, allLog_pure,
    BlockReader.allLog_walk, BlockReader.unitAt, hu, implies_true, true_and, and_true]
  simp [bodyReader, Bounds.Allows]

lemma allows_decodePacket :
    AllLog (Bounds.Allows { sensorTimestamp := sensorTimestamp, pointData := pointData })
        (p.decodePacket env packet frame) ↔
      ((p.decodePacket env packet frame).val.ret = 0 → ¬EndsFrame packet p → sensorTimestamp frame.packetNum ∧
        ∀ b < (headerAt env packet).getBlockNum, ∀ j < (headerAt env packet).getLaserNum, pointData
          (frame.packetNum * (headerAt env packet).getBlockNum * (headerAt env packet).getLaserNum +
            (headerAt env packet).getLaserNum * b + j)) := by
  by_cases he : EndsFrame packet p
  · rw [decodePacket_of_endsFrame _ _ _ _ he]
    exact ⟨fun _ _ hn => absurd he hn, fun _ => allLog_pure _⟩
  have hh : AllLog (Bounds.Allows { sensorTimestamp := sensorTimestamp, pointData := pointData })
      (readHeader env packet) := by
    simp [readHeader]
  rw [decodePacket_ret he, decodePacket_of_not_endsFrame _ _ _ _ he, allows_afterTests trivial trivial, allLog_bind,
    and_iff_right hh, allows_decodeBody]
  exact imp_congr_right fun _ => (imp_iff_right he).symm

end Accesses

variable [Point Pt]

def u32 (z : ℤ) : ℤ := z % 2 ^ 32

def inField (azimuth : ℤ) (field : ℕ) : Bool :=
  let start : ℤ := (p.corrections.startFrame field).toNat
  let stop : ℤ := (p.corrections.endFrame field).toNat
  u32 (u32 (azimuth + circle - start) % circle + u32 (stop + circle - azimuth) % circle) ==
    u32 (stop + circle - start) % circle

/-- The mirror field of an azimuth; the `while` loop gives up after `frame_number` fields. -/
def searchField (azimuth : ℤ) : ℕ → ℕ → Option ℕ
  | 0, _ => none
  | n + 1, field =>
    if p.inField azimuth field then some field
    else searchField azimuth n ((field + 1) % p.corrections.frameNumber)

def pointAngles (field : ℕ) (azimuth : ℤ) (i : ℕ) : ℤ × ℤ :=
  if p.getCorrectionFile then
    let c := p.corrections
    let azi := (u32 azimuth).toNat
    let elevation := c.elevation i + c.getElevationAdjustV3 i azi * kFineResolutionInt
    let turned := u32 ((azimuth + circle - (c.startFrame field).toNat) * 2 - c.azimuth i)
    ((circle + (turned + c.getAzimuthAdjustV3 i azi * kFineResolutionInt)).tmod circle,
      (circle + elevation).tmod circle)
  else (0, 0)

def computeXYZI (packetIndex : ℕ) : Logged DecodeEvent (ℕ → Pt) :=
  let base := packetIndex * frame.perPointsNum
  fillGrid .point base frame.laserNum (fun b =>
    let first := truncate (frame.pointData (base + b * frame.laserNum)).azimuth
    let field := if p.getCorrectionFile then p.searchField first p.corrections.frameNumber 0 else some 0
    field.map fun field i =>
      let data := frame.pointData (base + b * frame.laserNum + i)
      let angles := p.pointAngles field (truncate data.azimuth) i
      p.fillPoint env frame.config data (frame.sensorTimestamp packetIndex)
        (data.distances.toNat * frame.distanceUnit) angles.1 angles.2 i) frame.blockNum frame.points

end Decode

end Udp43Parser

def udp43 (env : Environment) (Pt Fault : Type) [Point Pt] (parserFaultMessage : UdpPacket → Fault → Fault) :
    Parser Udp43Parser Pt Fault where
  new _ := default
  decodePacket p frame packet := p.decodePacket env packet frame
  computeXYZI p frame packetIndex := p.computeXYZI env frame packetIndex
  parserFaultMessage _ := parserFaultMessage

end HesaiSdk.Parsing
