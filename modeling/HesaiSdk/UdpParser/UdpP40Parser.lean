import HesaiSdk.UdpParser.MechanicalBody

namespace HesaiSdk.Parsing

open Library Lidar UdpProtocol UdpProtocol.P40

namespace UdpP40Parser

variable (env : Environment) (packet : UdpPacket)

section Decode

variable {Pt : Type} (p : GeneralParser) (frame : LidarDecodedFrame Pt)

/-- Here the delimiter is `0xFF 0xEE`. -/
def afterSob (body : Logged DecodeEvent (Decoded GeneralParser Pt)) :
    Logged DecodeEvent (Decoded GeneralParser Pt) := do
  let first ← readU8 env packet 0
  if first ≠ 0xFF then reject p frame
  else do
    let second ← readU8 env packet 1
    if second ≠ 0xEE then reject p frame else body

def decodeBody : Logged DecodeEvent (Decoded GeneralParser Pt) := do
  let tail := layout.endOffset
  let packetSeqnum ← readU32 env packet (tail + sizeofTail)
  note (.packetLoss packetSeqnum)
  let counted := p.calPktLoss env packetSeqnum
  let packetTimestamp ← getMicroLidarTime env packet tail
  let timed := counted.calPktTimeLoss env packetTimestamp
  let motorSpeed ← readU16 env packet (tail + 8)
  let shutdown ← readU8 env packet (tail + 5)
  let returnMode ← readU8 env packet (tail + 14)
  let stamped ← storeSensorTimestamp frame packet.recvTimestamp (getMicroLidarTime env packet tail)
  let sped := { timed.tick with spinSpeed := motorSpeed }
  let body ← mechanicalWalk env packet layout sped.fireTimes sped.rotationFlag (fun _ => pure) frame.packetNum
    frame.pointData
  let split := isNeedFrameSplit body.2 sped
  pure ⟨0, split.1.noteAzimuth body.2,
    { stamped with
      spinSpeed := motorSpeed
      lidarState := shutdown.toNat
      returnMode := returnMode.toUInt16
      perPointsNum := BLOCKNUM * LASERNUM
      scanComplete := split.2
      blockNum := BLOCKNUM
      laserNum := LASERNUM
      distanceUnit := DISTANCEUNIT
      hostTimestamp := timed.getMicroTickCountU64 env
      pointData := body.1.slots
      packetNum := frame.packetNum + 1 }⟩

def decodePacket : Logged DecodeEvent (Decoded GeneralParser Pt) :=
  if p.getCorrectionFile = false then reject p frame
  else afterSob env packet p frame (decodeBody env packet p frame)

variable {env packet p frame}

lemma decodePacket_val : (decodePacket env packet p frame).val =
    if p.getCorrectionFile = true ∧ byteAt env packet 0 = 0xFF ∧ byteAt env packet 1 = 0xEE
    then (decodeBody env packet p frame).val else ⟨-1, p, frame⟩ := by
  rw [decodePacket, afterSob]
  by_cases hget : p.getCorrectionFile = true
  · by_cases h0 : byteAt env packet 0 = 0xFF
    · by_cases h1 : byteAt env packet 1 = 0xEE <;> simp [hget, h0, h1, reject]
    · simp [hget, h0, reject]
  · simp [hget, reject]

lemma decodePacket_accepted (hret : (decodePacket env packet p frame).val.ret = 0) :
    (decodePacket env packet p frame).val = (decodeBody env packet p frame).val := by
  rw [decodePacket_val] at hret ⊢
  split_ifs at hret ⊢ with htests
  · rfl
  · exact absurd (show (-1 : ℤ) = 0 from hret) (by decide)

lemma decodePacket_calibration :
    (decodePacket env packet p frame).val.parser.toCalibration = p.toCalibration := by
  rw [decodePacket_val]
  split_ifs
  · simp [decodeBody, isNeedFrameSplit]
  · rfl

lemma decodePacket_blockAzimuths (hret : (decodePacket env packet p frame).val.ret = 0)
    (hfire : p.getFiretimeFile = false) :
    BlockAzimuths (decodePacket env packet p frame).val.frame frame.packetNum := by
  rw [decodePacket_accepted hret]
  refine mechanicalWalk_blockAzimuths (fun b j => ?_) (fun _ _ => rfl) rfl rfl rfl rfl
  simp [GeneralParser.fireTimes, hfire]

end Decode

def computeForm (Pt : Type) : ComputeForm Pt :=
  ⟨fun _ => 0, fun _ _ => 0, fun _ => DISTANCEUNIT, false⟩

end UdpP40Parser

def udpP40 (env : Environment) (Pt Fault : Type) [Point Pt] : Parser GeneralParser Pt Fault where
  new _ := default
  decodePacket p frame packet := UdpP40Parser.decodePacket env packet p frame
  computeXYZI p frame packetIndex := (UdpP40Parser.computeForm Pt).computeXYZI env p.toCalibration frame packetIndex
  parserFaultMessage _ _ info := info

end HesaiSdk.Parsing
