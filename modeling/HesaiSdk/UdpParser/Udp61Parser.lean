import HesaiSdk.UdpParser.Compute
import HesaiSdk.UdpParser.Parser
import HesaiSdk.UdpProtocol.V61

namespace HesaiSdk.Parsing

open Library Library.BlockWalk Lidar UdpProtocol UdpProtocol.V61

namespace Udp61Parser

variable (env : Environment) (packet : UdpPacket) (h : Header)

def isNeedFrameSplit (azimuth : UInt16) (p : GeneralParser) : GeneralParser × Bool :=
  p.isNeedFrameSplit azimuth

def bodyReader (g : GeneralParser) : BlockReader DecodeEvent PointDecodeData UInt16 UInt16 where
  headSize := sizeofBodyAzimuth
  unitSize := sizeofBodyChannelData
  readHead _ o := readU16 env packet o
  writeUnit u16Azimuth j o slot := do
    let azimuth ← (if g.getFiretimeFile then do
        let fireTime ← g.getFiretimesCorrection j g.spinSpeed.toNat
        pure (u16Azimuth.toNat + g.rotationFlag * fireTime * kResolutionFloat)
      else pure (u16Azimuth.toNat : ℚ))
    let unit ← readChannelData env packet o
    pure { slot with
      azimuth := azimuth
      distances := unit.distance
      reflectivities := unit.reflectivity
      confidence := unit.confidence }
  written := .pointData
  finishBlock u16Azimuth _ := u16Azimuth

section Decode

variable {Pt : Type} (p : GeneralParser) (frame : LidarDecodedFrame Pt)

def decodeBody : Logged DecodeEvent (Decoded GeneralParser Pt) := do
  let stamped ← storeSensorTimestamp frame packet.recvTimestamp (getMicroLidarTime env packet h.tailOffset)
  let packetSeqnum ← readU32 env packet (h.tailOffset + 24)
  note (.packetLoss packetSeqnum)
  let counted := p.calPktLoss env packetSeqnum
  let packetTimestamp ← getMicroLidarTime env packet h.tailOffset
  let timed := counted.calPktTimeLoss env packetTimestamp
  let motorSpeed ← readU16 env packet (h.tailOffset + 11)
  let returnMode ← readU8 env packet (h.tailOffset + 10)
  let shutdown ← readU8 env packet (h.tailOffset + 9)
  let sped := { timed.tick with spinSpeed := motorSpeed, isDualReturn := isDualReturn returnMode }
  let body ← (bodyReader env packet sped).walk h.getLaserNum h.getBlockNum
    (⟨Header.bodyOffset, frame.packetNum * h.getBlockNum * h.getLaserNum, frame.pointData⟩, 0)
  let split := isNeedFrameSplit body.2 sped
  pure ⟨0, split.1.noteAzimuth body.2,
    { stamped with
      hostTimestamp := timed.getMicroTickCountU64 env
      spinSpeed := motorSpeed
      workMode := shutdown.toNat
      perPointsNum := h.getBlockNum * h.getLaserNum
      scanComplete := split.2
      distanceUnit := h.getDistUnit
      blockNum := h.getBlockNum
      laserNum := h.getLaserNum
      pointData := body.1.slots
      packetNum := frame.packetNum + 1 }⟩

def decodePacket : Logged DecodeEvent (Decoded GeneralParser Pt) :=
  if p.getCorrectionFile = false then reject p frame
  else afterDelimiter env packet p frame do
    let h ← readHeader env packet
    decodeBody env packet h p frame

lemma decodePacket_val : (decodePacket env packet p frame).val =
    if p.getCorrectionFile = true ∧ Delimited env packet
    then (decodeBody env packet (headerAt env packet) p frame).val else ⟨-1, p, frame⟩ := by
  rw [decodePacket, afterTests_val, val_bind, headerAt]

variable {env packet p frame} in
lemma decodePacket_ret : (decodePacket env packet p frame).val.ret = 0 ↔
    p.getCorrectionFile = true ∧ Delimited env packet := by
  rw [decodePacket]
  exact afterTests_ret rfl

variable {env packet p frame} in
lemma decodePacket_packetNum : (decodePacket env packet p frame).val.frame.packetNum = frame.packetNum + 1 ↔
    (decodePacket env packet p frame).val.ret = 0 := by
  rw [decodePacket_val]
  split <;> simp [decodeBody]

variable {env packet p frame} in
lemma decodePacket_calibration :
    (decodePacket env packet p frame).val.parser.toCalibration = p.toCalibration := by
  rw [decodePacket_val]
  split_ifs
  · simp [decodeBody, isNeedFrameSplit]
  · rfl

def splitAzimuth : UInt16 :=
  match h.getBlockNum with
  | 0 => 0
  | n + 1 => (readU16 env packet
      (Header.bodyOffset + (sizeofBodyAzimuth + sizeofBodyChannelData * h.getLaserNum) * n)).val

lemma finishBlocks_eq (g : GeneralParser) :
    (bodyReader env packet g).finishBlocks h.getLaserNum Header.bodyOffset 0 h.getBlockNum =
      splitAzimuth env packet h := by
  rw [splitAzimuth]
  cases h.getBlockNum <;> rfl

lemma decodePacket_split (hc : p.getCorrectionFile = true) (hd : Delimited env packet) :
    ∃ g : GeneralParser, g.splitState = p.splitState ∧ g.toCalibration = p.toCalibration ∧
      (decodePacket env packet p frame).val.frame.scanComplete =
        (g.isNeedFrameSplit (splitAzimuth env packet (headerAt env packet))).2 ∧
      (decodePacket env packet p frame).val.parser =
        (g.isNeedFrameSplit (splitAzimuth env packet (headerAt env packet))).1.noteAzimuth
          (splitAzimuth env packet (headerAt env packet)) := by
  rw [decodePacket_val, if_pos ⟨hc, hd⟩]
  simp only [decodeBody, val_bind, val_pure, BlockReader.walk_val, finishBlocks_eq, isNeedFrameSplit]
  refine ⟨_, ?_, ?_, rfl, rfl⟩
  · exact (GeneralParser.calPktTimeLoss_splitState env _ _).trans (GeneralParser.calPktLoss_splitState env p _)
  · exact (GeneralParser.calPktTimeLoss_calibration env _ _).trans (GeneralParser.calPktLoss_calibration env p _)

section Turning

def Turned (state : ℚ × ℤ × ℤ) (p : GeneralParser) : Prop :=
  p.getCorrectionFile = true ∧ p.splitState = state

def splits (state : ℚ × ℤ × ℤ) (azimuth : UInt16) : Bool :=
  ({ (default : GeneralParser) with
      frameStartAzimuth := state.1
      lastLastAzimuth := state.2.1
      lastAzimuth := state.2.2 }.isNeedFrameSplit azimuth).2

def turn (state : ℚ × ℤ × ℤ) (azimuth : UInt16) : ℚ × ℤ × ℤ :=
  if (azimuth.toNat : ℤ) = state.2.2 then state else (state.1, state.2.2, azimuth.toNat)

variable {env packet p frame} {state : ℚ × ℤ × ℤ}

lemma decodePacket_turn (frame : LidarDecodedFrame Pt) (ht : Turned state p) (h0 : 0 ≤ state.1) (h360 : state.1 < 360)
    (hd : Delimited env packet) :
    let azimuth := splitAzimuth env packet (headerAt env packet)
    let d := (decodePacket env packet p frame).val
    d.ret = 0 ∧ d.frame.packetNum = frame.packetNum + 1 ∧
      d.frame.scanComplete = splits state azimuth ∧ Turned (turn state azimuth) d.parser := by
  obtain ⟨g, hs, hc, hscan, hparser⟩ := decodePacket_split env packet p frame ht.1 hd
  have hg : g.splitState = state := hs.trans ht.2
  have hret : (decodePacket env packet p frame).val.ret = 0 := decodePacket_ret.mpr ⟨ht.1, hd⟩
  have hfs : g.frameStartAzimuth = state.1 := congrArg (fun x => x.1) hg
  have hkeep (azimuth : UInt16) : (g.isNeedFrameSplit azimuth).1.splitState = state :=
    (g.isNeedFrameSplit_splitState (hfs ▸ h0) (hfs ▸ h360) azimuth).trans hg
  refine ⟨hret, decodePacket_packetNum.mpr hret, ?_, ?_, ?_⟩
  · rw [hscan, splits]
    exact GeneralParser.isNeedFrameSplit_congr _ hg
  · rw [decodePacket_calibration]
    exact ht.1
  · rw [hparser, GeneralParser.noteAzimuth_splitState, turn]
    have hstart := congrArg (fun x => x.1) (hkeep (splitAzimuth env packet (headerAt env packet)))
    have hlast := congrArg (fun x => x.2.2) (hkeep (splitAzimuth env packet (headerAt env packet)))
    rw [hkeep]
    simp only [GeneralParser.splitState] at hstart hlast
    rw [hstart, hlast]

end Turning

section Accesses

variable {env packet h p frame} {sensorTimestamp pointData : ℕ → Prop}

lemma allows_decodeBody :
    AllLog (Bounds.Allows { sensorTimestamp := sensorTimestamp, pointData := pointData })
        (decodeBody env packet h p frame) ↔
      sensorTimestamp frame.packetNum ∧ ∀ b < h.getBlockNum, ∀ j < h.getLaserNum,
        pointData (frame.packetNum * h.getBlockNum * h.getLaserNum + h.getLaserNum * b + j) := by
  have hu (g : GeneralParser) (u16Azimuth : UInt16) (j o : ℕ) (slot : PointDecodeData) :
      AllLog (Bounds.Allows { sensorTimestamp := sensorTimestamp, pointData := pointData })
        ((bodyReader env packet g).writeUnit u16Azimuth j o slot) := by
    simp only [bodyReader, allLog_bind, allLog_pure, readChannelData, allows_readU16, allows_readU8,
      implies_true, and_true]
    split_ifs <;> simp [Calibration.allows_getFiretimesCorrection]
  simp only [decodeBody, allLog_bind, allows_storeSensorTimestamp, getMicroLidarTime,
    allows_getMicroLidarTimeU64, timeBytes_true, allows_readU32, allows_readU16, allows_readU8, allLog_note,
    allLog_pure, BlockReader.allLog_walk, BlockReader.unitAt, hu, implies_true, true_and, and_true]
  simp [bodyReader, Bounds.Allows]

lemma allows_decodePacket :
    AllLog (Bounds.Allows { sensorTimestamp := sensorTimestamp, pointData := pointData })
        (decodePacket env packet p frame) ↔
      ((decodePacket env packet p frame).val.ret = 0 → sensorTimestamp frame.packetNum ∧
        ∀ b < (headerAt env packet).getBlockNum, ∀ j < (headerAt env packet).getLaserNum, pointData
          (frame.packetNum * (headerAt env packet).getBlockNum * (headerAt env packet).getLaserNum +
            (headerAt env packet).getLaserNum * b + j)) := by
  have hh : AllLog (Bounds.Allows { sensorTimestamp := sensorTimestamp, pointData := pointData })
      (readHeader env packet) := by
    simp [readHeader]
  rw [decodePacket_ret, decodePacket, allows_afterTests trivial trivial, allLog_bind, and_iff_right hh, allows_decodeBody]
  rfl

end Accesses

variable [Point Pt]

def spotCorrectionAngle : List ℤ := [3, 3, 25, 25, 20, 15, 8, 6]

def spotCorrection (p : Calibration) (distance : ℚ) : ℤ :=
  if (p.lidarType = "PandarXT32M1" ∨ p.lidarType = "PandarXT16M1") ∧ 1 / 4 ≤ distance ∧ distance < 17 / 4 then
    let index := truncate ((distance - 1 / 4) / (1 / 2))
    spotCorrectionAngle.getD (if 7 < index then 7 else index.toNat) 0 * kFineResolutionInt
  else 0

def computeXYZI (packetIndex : ℕ) : Logged DecodeEvent (ℕ → Pt) :=
  p.toCalibration.computeXYZI env (spotCorrection p.toCalibration) frame packetIndex

end Decode

end Udp61Parser

def udp61 (env : Environment) (Pt Fault : Type) [Point Pt] : Parser GeneralParser Pt Fault where
  new _ := default
  decodePacket p frame packet := Udp61Parser.decodePacket env packet p frame
  computeXYZI p frame packetIndex := Udp61Parser.computeXYZI env p frame packetIndex
  parserFaultMessage _ _ info := info

end HesaiSdk.Parsing
