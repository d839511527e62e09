import HesaiSdk.UdpParser.Compute
import HesaiSdk.UdpParser.Parser
import HesaiSdk.UdpProtocol.V14

namespace HesaiSdk.Parsing

open Library Library.BlockWalk Lidar UdpProtocol UdpProtocol.V14

/-- `firetimeSectionValues` is by laser, section and distance class. -/
structure Udp14Parser extends GeneralParser where
  sectionDistance : ℚ
  firetimeSectionValues : ℕ → ℕ → ℕ → ℤ
deriving Inhabited

structure BlockHead where
  azimuth : UInt16
  angleState : UInt8

namespace Udp14Parser

variable (env : Environment) (packet : UdpPacket) (h : Header)

def getFiretimesCorrection (p : Udp14Parser) (laserId : ℕ) (speed : ℚ) (optMode angleState : UInt8)
    (dist : ℚ) : Logged DecodeEvent ℚ :=
  let lookup (idx : ℕ) : Logged DecodeEvent ℚ := do
    let k := if p.sectionDistance ≤ dist then 0 else 1
    note (.firetime laserId idx)
    pure (p.firetimeSectionValues laserId idx k * speed * (6 / 1000000000))
  if optMode = 0 then lookup angleState.toNat
  else if optMode = 2 then lookup (4 + angleState.toNat)
  else if optMode = 3 then lookup (6 + angleState.toNat)
  else pure 0

def isNeedFrameSplit (azimuth : UInt16) (p : GeneralParser) : GeneralParser × Bool :=
  p.isNeedFrameSplit azimuth

def lidarState : Logged DecodeEvent ℤ :=
  if h.hasFuncSafety then getLidarState env packet h.funcSafetyOffset else pure (-1)

def countSeqNum (p : GeneralParser) : Logged DecodeEvent GeneralParser :=
  if h.hasSeqNum then do
    let packetSeqnum ← readU32 env packet h.seqNumOffset
    note (.packetLoss packetSeqnum)
    pure (p.calPktLoss env packetSeqnum)
  else pure p

def updateMonitorInfo (p : GeneralParser) : Logged DecodeEvent GeneralParser :=
  if p.enableUpdateMonitorInfo then do
    let id1 ← readU8 env packet (h.tailOffset + 2)
    let sts1 ← readU16 env packet h.tailOffset
    let id2 ← readU8 env packet (h.tailOffset + 5)
    let sts2 ← readU16 env packet (h.tailOffset + 3)
    let id3 ← readU8 env packet (h.tailOffset + 8)
    let sts3 ← readU16 env packet (h.tailOffset + 6)
    pure { p with
      monitorInfo1 := Function.update p.monitorInfo1 id1 sts1
      monitorInfo2 := Function.update p.monitorInfo2 id2 sts2
      monitorInfo3 := Function.update p.monitorInfo3 id3 sts3 }
  else pure p

@[simp] lemma countSeqNum_calibration (g : GeneralParser) :
    (countSeqNum env packet h g).val.toCalibration = g.toCalibration := by
  rw [countSeqNum]
  split <;> simp

@[simp] lemma updateMonitorInfo_calibration (g : GeneralParser) :
    (updateMonitorInfo env packet h g).val.toCalibration = g.toCalibration := by
  rw [updateMonitorInfo]
  split <;> rfl

@[simp] lemma countSeqNum_splitState (g : GeneralParser) :
    (countSeqNum env packet h g).val.splitState = g.splitState := by
  rw [countSeqNum]
  split <;> simp

@[simp] lemma updateMonitorInfo_splitState (g : GeneralParser) :
    (updateMonitorInfo env packet h g).val.splitState = g.splitState := by
  rw [updateMonitorInfo]
  split <;> rfl

def blockAzimuth (p : Udp14Parser) (g : GeneralParser) (optMode : UInt8) (head : BlockHead) (j : ℕ)
    (unit : ChnUnit) : Logged DecodeEvent ℚ :=
  if p.getFiretimeFile then do
    let fireTime ← p.getFiretimesCorrection j g.spinSpeed.toNat optMode head.angleState
      (unit.distance.toNat * h.getDistUnit)
    pure (head.azimuth.toNat + g.rotationFlag * fireTime * kResolutionFloat)
  else pure head.azimuth.toNat

def bodyReader (p : Udp14Parser) (g : GeneralParser) (optMode : UInt8) :
    BlockReader DecodeEvent PointDecodeData BlockHead UInt16 where
  headSize := sizeofBodyAzimuth
  unitSize := h.unitSize
  readHead b o := do
    let angleState ← getAngleState env packet h.tailOffset b
    let azimuth ← readU16 env packet o
    pure ⟨azimuth, angleState⟩
  writeUnit head j o slot := do
    let unit ← readChnUnit env packet h.hasConfidenceLevel o
    let azimuth ← p.blockAzimuth h g optMode head j unit
    pure { slot with
      azimuth := azimuth
      reflectivities := unit.reflectivity
      distances := unit.distance
      confidence := unit.confidence.getD slot.confidence
      elevation := 0 }
  written := .pointData
  finishBlock head _ := head.azimuth

section Decode

variable {Pt : Type} (p : Udp14Parser) (frame : LidarDecodedFrame Pt)

/-- `DecodePacket` after the calibration and delimiter tests. -/
def decodeBody : Logged DecodeEvent (Decoded Udp14Parser Pt) := do
  let state ← lidarState env packet h
  let counted ← countSeqNum env packet h p.toGeneralParser
  let stamped ← storeSensorTimestamp frame packet.recvTimestamp (getMicroLidarTime env packet h.tailOffset)
  let packetTimestamp ← getMicroLidarTime env packet h.tailOffset
  let timed := counted.calPktTimeLoss env packetTimestamp
  let motorSpeed ← readU16 env packet (h.tailOffset + 13)
  let returnMode ← readU8 env packet (h.tailOffset + 12)
  let runningMode ← readU8 env packet (h.tailOffset + 11)
  let monitored ← updateMonitorInfo env packet h
    { timed.tick with spinSpeed := motorSpeed, isDualReturn := isDualReturn returnMode }
  let body ← (p.bodyReader env packet h monitored (getOperationMode runningMode)).walk
    h.getLaserNum h.getBlockNum
    (⟨Header.bodyOffset, frame.packetNum * h.getBlockNum * h.getLaserNum, frame.pointData⟩, 0)
  let split := isNeedFrameSplit body.2 monitored
  pure ⟨0, { p with toGeneralParser := split.1.noteAzimuth body.2 },
    { stamped with
      lidarState := state
      hostTimestamp := timed.getMicroTickCountU64 env
      spinSpeed := motorSpeed
      workMode := runningMode.toNat
      returnMode := returnMode.toUInt16
      perPointsNum := h.getBlockNum * h.getLaserNum
      scanComplete := split.2
      distanceUnit := h.getDistUnit
      blockNum := h.getBlockNum
      laserNum := h.getLaserNum
      pointData := body.1.slots
      packetNum := frame.packetNum + 1 }⟩

def decodePacket : Logged DecodeEvent (Decoded Udp14Parser Pt) :=
  if p.getCorrectionFile = false then reject p frame
  else afterDelimiter env packet p frame do
    let h ← readHeader env packet
    decodeBody env packet h p frame

lemma decodePacket_val : (p.decodePacket env packet frame).val =
    if p.getCorrectionFile = true ∧ Delimited env packet
    then (decodeBody env packet (headerAt env packet) p frame).val else ⟨-1, p, frame⟩ := by
  rw [decodePacket, afterTests_val, val_bind, headerAt]

variable {env packet p frame} in
lemma decodePacket_ret : (p.decodePacket env packet frame).val.ret = 0 ↔
    p.getCorrectionFile = true ∧ Delimited env packet := by
  rw [decodePacket]
  exact afterTests_ret rfl

variable {env packet p frame} in
lemma decodePacket_packetNum : (p.decodePacket env packet frame).val.frame.packetNum = frame.packetNum + 1 ↔
    (p.decodePacket env packet frame).val.ret = 0 := by
  rw [decodePacket_val]
  split <;> simp [decodeBody]

variable {env packet p frame} in
lemma decodePacket_calibration :
    (p.decodePacket env packet frame).val.parser.toCalibration = p.toCalibration := by
  rw [decodePacket_val]
  split_ifs
  · simp [decodeBody, isNeedFrameSplit]
  · rfl

def splitAzimuth : UInt16 :=
  match h.getBlockNum with
  | 0 => 0
  | n + 1 => (readU16 env packet (Header.bodyOffset + h.blockSize * n)).val

lemma finishBlocks_eq (g : GeneralParser) (optMode : UInt8) :
    (p.bodyReader env packet h g optMode).finishBlocks h.getLaserNum Header.bodyOffset 0 h.getBlockNum =
      splitAzimuth env packet h := by
  rw [splitAzimuth]
  cases h.getBlockNum with
  | zero => rfl
  | succ n =>
    simp only [BlockReader.finishBlocks, BlockReader.headAt, bodyReader, val_bind, val_pure]
    rfl

lemma decodePacket_split (hc : p.getCorrectionFile = true) (hd : Delimited env packet) :
    ∃ g : GeneralParser, g.splitState = p.splitState ∧
      (p.decodePacket env packet frame).val.frame.scanComplete =
        (g.isNeedFrameSplit (splitAzimuth env packet (headerAt env packet))).2 ∧
      (p.decodePacket env packet frame).val.parser.toGeneralParser =
        (g.isNeedFrameSplit (splitAzimuth env packet (headerAt env packet))).1.noteAzimuth
          (splitAzimuth env packet (headerAt env packet)) := by
  rw [decodePacket_val, if_pos ⟨hc, hd⟩]
  simp only [decodeBody, val_bind, val_pure, BlockReader.walk_val, finishBlocks_eq, isNeedFrameSplit]
  refine ⟨_, ?_, rfl, rfl⟩
  rw [updateMonitorInfo_splitState, GeneralParser.splitState]
  exact (GeneralParser.calPktTimeLoss_splitState env _ _).trans (countSeqNum_splitState env packet _ _)

variable [Point Pt]

def computeXYZI (packetIndex : ℕ) : Logged DecodeEvent (ℕ → Pt) :=
  p.toCalibration.computeXYZI env (fun _ => 0) frame packetIndex

end Decode

end Udp14Parser

def udp14 (env : Environment) (Pt Fault : Type) [Point Pt] : Parser Udp14Parser Pt Fault where
  new _ := default
  decodePacket p frame packet := p.decodePacket env packet frame
  computeXYZI p frame packetIndex := p.computeXYZI env frame packetIndex
  parserFaultMessage _ _ info := info

end HesaiSdk.Parsing
