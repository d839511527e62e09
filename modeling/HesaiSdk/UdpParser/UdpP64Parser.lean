import HesaiSdk.UdpParser.MechanicalBody

namespace HesaiSdk.Parsing

open Library Lidar UdpProtocol UdpProtocol.P64

namespace UdpP64Parser

variable (env : Environment) (packet : UdpPacket)

section Decode

variable {Pt : Type} (p : GeneralParser) (frame : LidarDecodedFrame Pt)

def decodeBody (h : BodyHeader) : Logged DecodeEvent (Decoded GeneralParser Pt) := do
  let tail := (layout h).endOffset
  let stamped ← storeSensorTimestamp frame packet.recvTimestamp (getMicroLidarTime env packet tail)
  let packetSeqnum ← readU32 env packet (tail + sizeofTail)
  note (.packetLoss packetSeqnum)
  let counted := p.calPktLoss env packetSeqnum
  let packetTimestamp ← getMicroLidarTime env packet tail
  let timed := counted.calPktTimeLoss env packetTimestamp
  let motorSpeed ← readU16 env packet (tail + 8)
  let shutdown ← readU8 env packet (tail + 5)
  let returnMode ← readU8 env packet (tail + 14)
  let sped := { timed.tick with spinSpeed := motorSpeed }
  let body ← mechanicalWalk env packet (layout h) sped.fireTimes sped.rotationFlag
    (fun _ slot => pure { slot with elevation := 0 }) frame.packetNum frame.pointData
  let split := isNeedFrameSplit body.2 sped
  pure ⟨0, split.1.noteAzimuth body.2,
    { stamped with
      spinSpeed := motorSpeed
      lidarState := shutdown.toNat
      returnMode := returnMode.toUInt16
      perPointsNum := h.blockNum.toNat * h.laserNum.toNat
      scanComplete := split.2
      hostTimestamp := timed.getMicroTickCountU64 env
      distanceUnit := h.getDistUnit
      blockNum := h.blockNum.toNat
      laserNum := h.laserNum.toNat
      pointData := body.1.slots
      packetNum := frame.packetNum + 1 }⟩

def decodePacket : Logged DecodeEvent (Decoded GeneralParser Pt) :=
  if p.getCorrectionFile = false then reject p frame
  else afterDelimiter env packet p frame do
    let h ← readHeader env packet
    decodeBody env packet p frame h

variable {env packet p frame}

lemma decodePacket_accepted (hret : (decodePacket env packet p frame).val.ret = 0) :
    (decodePacket env packet p frame).val = (decodeBody env packet p frame (readHeader env packet).val).val := by
  rw [decodePacket] at hret ⊢
  rw [afterTests_of_accepted hret, val_bind]

lemma decodePacket_calibration :
    (decodePacket env packet p frame).val.parser.toCalibration = p.toCalibration := by
  rw [decodePacket, afterTests_val]
  split_ifs
  · simp [decodeBody, isNeedFrameSplit]
  · rfl

lemma decodePacket_blockAzimuths (hret : (decodePacket env packet p frame).val.ret = 0)
    (hfire : p.getFiretimeFile = false) :
    BlockAzimuths (decodePacket env packet p frame).val.frame frame.packetNum := by
  rw [decodePacket_accepted hret]
  refine mechanicalWalk_blockAzimuths (fun b j => ?_) (fun _ _ => rfl) rfl rfl rfl rfl
  simp [GeneralParser.fireTimes, hfire]

end Decode

def computeForm (Pt : Type) : ComputeForm Pt :=
  ⟨fun _ => 0, fun _ _ => 0, fun frame => frame.distanceUnit, false⟩

end UdpP64Parser

def udpP64 (env : Environment) (Pt Fault : Type) [Point Pt] : Parser GeneralParser Pt Fault where
  new _ := default
  decodePacket p frame packet := UdpP64Parser.decodePacket env packet p frame
  computeXYZI p frame packetIndex := (UdpP64Parser.computeForm Pt).computeXYZI env p.toCalibration frame packetIndex
  parserFaultMessage _ _ info := info

end HesaiSdk.Parsing
