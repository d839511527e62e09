import HesaiSdk.UdpParser.MechanicalBody

namespace HesaiSdk.Parsing

open Library Lidar UdpProtocol UdpProtocol.V32

/-- The tables are by loop and laser; `channelConfigSize` is the length of a loop's row of the channel table. -/
structure Udp32Parser extends GeneralParser where
  qt128Firetime : ℕ → ℤ → ℚ
  channelConfigTable : ℕ → ℕ → ℤ
  channelConfigSize : ℕ → ℕ
  isChannelConfigObtained : Bool
deriving Inhabited

namespace Udp32Parser

variable (env : Environment) (packet : UdpPacket)

section FireTimes

variable (p : Udp32Parser) (h : BodyHeader)

def getFiretimesCorrection (laserId : ℤ) (speed : ℚ) (loopIndex : ℕ) : ℚ :=
  p.qt128Firetime loopIndex laserId * speed * (6 / 1000000)

def loopIndex (modeFlag returnMode : UInt8) (i : ℕ) : ℕ :=
  (modeFlag.toNat + i / (if returnMode < 0x39 then 1 else 2) + 1) % 2

def laserId (loopIndex i j : ℕ) : ℤ :=
  if hasSelfDefine h ∧ p.isChannelConfigObtained ∧ i < p.channelConfigSize loopIndex
  then p.channelConfigTable loopIndex j - 1 else j

def fireTimes (motorSpeed : UInt16) (modeFlag returnMode : UInt8) : FireTimes := fun i j =>
  let loopIndex := loopIndex modeFlag returnMode i
  if p.getFiretimeFile
  then some (pure (p.getFiretimesCorrection (p.laserId h loopIndex i j) motorSpeed.toNat loopIndex)) else none

end FireTimes

section Decode

variable {Pt : Type} (p : Udp32Parser) (frame : LidarDecodedFrame Pt)

/-- The packet is counted with the confidence level only. -/
def countPacket (h : BodyHeader) (g : GeneralParser) : Logged DecodeEvent GeneralParser := do
  let counted ← (if hasSeqNum h then do
      let packetSeqnum ← readU32 env packet (tailOffset h + sizeofTail)
      note (.packetLoss packetSeqnum)
      pure (g.calPktLoss env packetSeqnum)
    else pure g)
  let packetTimestamp ← getMicroLidarTime env packet (tailOffset h)
  pure (counted.calPktTimeLoss env packetTimestamp)

def storeConfidence (h : BodyHeader) (o : ℕ) (slot : PointDecodeData) : Logged DecodeEvent PointDecodeData :=
  if hasConfidenceLevel h then do
    let confidence ← readU8 env packet (o + 3)
    pure { slot with confidence := confidence }
  else pure slot

/-- `DecodePacket` after the calibration and delimiter tests: its two branches, which differ where
`hasConfidenceLevel` is asked. -/
def decodeBody (h : BodyHeader) : Logged DecodeEvent (Decoded Udp32Parser Pt) := do
  let tail := tailOffset h
  let timed ← (if hasConfidenceLevel h then countPacket env packet h p.toGeneralParser else pure p.toGeneralParser)
  let stamped ← storeSensorTimestamp frame packet.recvTimestamp (getMicroLidarTime env packet tail)
  let motorSpeed ← readU16 env packet (tail + 13)
  let returnMode ← readU8 env packet (tail + 12)
  let modeFlag ← (if h.blockNum = 0 then pure 0 else readU8 env packet (tail + 5))
  let ticked := if hasConfidenceLevel h then timed.tick else timed
  let sped := { ticked with spinSpeed := motorSpeed }
  let body ← mechanicalWalk env packet (layout h) (p.fireTimes h motorSpeed modeFlag returnMode) sped.rotationFlag
    (storeConfidence env packet h) frame.packetNum frame.pointData
  let split := isNeedFrameSplit body.2 sped
  pure ⟨0, { p with toGeneralParser := split.1.noteAzimuth body.2 },
    { stamped with
      perPointsNum := h.blockNum.toNat * h.laserNum.toNat
      scanComplete := split.2
      blockNum := h.blockNum.toNat
      laserNum := h.laserNum.toNat
      distanceUnit := h.getDistUnit
      hostTimestamp := if hasConfidenceLevel h then timed.getMicroTickCountU64 env else frame.hostTimestamp
      spinSpeed := motorSpeed
      returnMode := returnMode.toUInt16
      pointData := body.1.slots
      packetNum := frame.packetNum + 1 }⟩

def decodePacket : Logged DecodeEvent (Decoded Udp32Parser Pt) :=
  if p.getCorrectionFile = false then reject p frame
  else afterDelimiter env packet p frame do
    let h ← readHeader env packet
    decodeBody env packet p frame h

variable {env packet p frame}

lemma decodePacket_accepted (hret : (decodePacket env packet p frame).val.ret = 0) :
    (decodePacket env packet p frame).val = (decodeBody env packet p frame (readHeader env packet).val).val := by
  rw [decodePacket] at hret ⊢
  rw [afterTests_of_accepted hret, val_bind]

lemma decodePacket_calibration :
    (decodePacket env packet p frame).val.parser.toCalibration = p.toCalibration := by
  rw [decodePacket, afterTests_val]
  split_ifs
  · simp only [decodeBody, countPacket, isNeedFrameSplit, val_bind, val_ite, val_pure]
    split_ifs <;> simp
  · rfl

lemma decodePacket_blockAzimuths (hret : (decodePacket env packet p frame).val.ret = 0)
    (hfire : p.getFiretimeFile = false) :
    BlockAzimuths (decodePacket env packet p frame).val.frame frame.packetNum := by
  rw [decodePacket_accepted hret]
  refine mechanicalWalk_blockAzimuths (fun b j => ?_) (fun o slot => ?_) rfl rfl rfl rfl
  · simp [fireTimes, hfire]
  · rw [storeConfidence]
    split_ifs <;> rfl

end Decode

def computeForm (Pt : Type) : ComputeForm Pt :=
  ⟨fun azimuth => azimuth, fun _ _ => 0, fun frame => frame.distanceUnit, false⟩

end Udp32Parser

def udp32 (env : Environment) (Pt Fault : Type) [Point Pt] : Parser Udp32Parser Pt Fault where
  new _ := default
  decodePacket p frame packet := Udp32Parser.decodePacket env packet p frame
  computeXYZI p frame packetIndex := (Udp32Parser.computeForm Pt).computeXYZI env p.toCalibration frame packetIndex
  parserFaultMessage _ _ info := info

end HesaiSdk.Parsing
