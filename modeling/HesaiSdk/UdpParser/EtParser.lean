import HesaiSdk.Library.BlockWalk
import HesaiSdk.UdpParser.Parser
import HesaiSdk.UdpProtocol.ET

/-! `DecodePacket` of the ET lidars. -/

namespace HesaiSdk.Parsing

open Library Library.BlockWalk Lidar UdpProtocol

/-- `getCorrectionFile` stands for the parser's own flag. -/
structure EtParser (Corrections : Type) extends GeneralParser where
  corrections : Corrections
  lastFrameid : ℤ

namespace EtParser

variable {Corrections : Type}

instance [Inhabited Corrections] : Inhabited (EtParser Corrections) := ⟨⟨default, default, -1⟩⟩

def isNeedFrameSplit (p : EtParser Corrections) (frameId : UInt8) : Bool :=
  decide ((frameId.toNat : ℤ) ≠ p.lastFrameid ∧ 0 ≤ p.lastFrameid)

section Decode

variable {Pt : Type} (env : Environment) (packet : UdpPacket) (m : EtMessage) (p : EtParser Corrections)
  (frame : LidarDecodedFrame Pt) (walk : (ℕ → PointDecodeData) → Logged DecodeEvent (ℕ → PointDecodeData))

/-- The size of the packet is computed anew for the pointer to the sequence number. -/
def countSeqNum (g : GeneralParser) : Logged DecodeEvent GeneralParser :=
  if m.hasSeqNum then do
    note (.divide m.seqNum)
    let packetSeqnum ← readU32 env packet m.seqNumOffset
    note (.packetLoss packetSeqnum)
    pure (g.calPktLoss env packetSeqnum)
  else pure g

/-- The header of the 2.6 message has no return mode, which is left as it was. -/
def readEchoMode (old : UInt16) : Logged DecodeEvent UInt16 :=
  match m.echoModeOffset with
  | none => pure old
  | some o => do
    let echoMode ← readU8 env packet o
    pure echoMode.toUInt16

def decodeMessage : Logged DecodeEvent (Decoded (EtParser Corrections) Pt) := do
  note (.divide m.seqNum)
  let counted ← countSeqNum env packet m p.toGeneralParser
  let packetTimestamp ← m.getMicroLidarTime env packet
  let timed := counted.calPktTimeLoss env packetTimestamp
  let stamped ← storeSensorTimestamp frame packet.recvTimestamp (m.getMicroLidarTime env packet)
  let shutDown ← readU8 env packet m.shutDownOffset
  let echoMode ← readEchoMode env packet m frame.returnMode
  let pointData ← walk frame.pointData
  let frameId ← readU8 env packet m.frameIdOffset
  let p := { p with toGeneralParser := timed.tick }
  pure ⟨0, { p with lastFrameid := frameId.toNat },
    { stamped with
      hostTimestamp := timed.getMicroTickCountU64 env
      workMode := shutDown.toNat
      returnMode := echoMode
      distanceUnit := m.getDistUnit
      perPointsNum := m.perPointsNum
      scanComplete := p.useAngle && p.isNeedFrameSplit frameId
      blockNum := m.blockNum
      laserNum := m.laserNum
      pointData := pointData
      packetNum := frame.packetNum + 1 }⟩

def guarded (body : Logged DecodeEvent (Decoded (EtParser Corrections) Pt)) :
    Logged DecodeEvent (Decoded (EtParser Corrections) Pt) :=
  if p.getCorrectionFile = false then reject p frame else afterDelimiter env packet p frame body

section Guarded

variable {env packet p frame} {body : Logged DecodeEvent (Decoded (EtParser Corrections) Pt)}

lemma guarded_val : (guarded env packet p frame body).val =
    if p.getCorrectionFile = true ∧ Delimited env packet then body.val else ⟨-1, p, frame⟩ :=
  afterTests_val

lemma guarded_ret (hbody : body.val.ret = 0) : (guarded env packet p frame body).val.ret = 0 ↔
    p.getCorrectionFile = true ∧ Delimited env packet := by
  rw [guarded]
  exact afterTests_ret hbody

lemma guarded_log (hc : p.getCorrectionFile = true) (hd : Delimited env packet) :
    (guarded env packet p frame body).log = (hasDelimiter env packet).log ++ body.log := by
  rw [guarded, if_neg (by simp [hc]), afterDelimiter, log_bind, hasDelimiter_val, decide_eq_true hd,
    if_neg (by decide)]

end Guarded

section Message

variable {env packet m p frame walk}

@[simp] lemma decodeMessage_ret : (decodeMessage env packet m p frame walk).val.ret = 0 := rfl

@[simp] lemma decodeMessage_pointData :
    (decodeMessage env packet m p frame walk).val.frame.pointData = (walk frame.pointData).val := rfl

@[simp] lemma decodeMessage_perPointsNum :
    (decodeMessage env packet m p frame walk).val.frame.perPointsNum = m.perPointsNum := rfl

@[simp] lemma decodeMessage_workMode : (decodeMessage env packet m p frame walk).val.frame.workMode =
    (byteAt env packet m.shutDownOffset).toNat := rfl

@[simp] lemma decodeMessage_lastFrameid : (decodeMessage env packet m p frame walk).val.parser.lastFrameid =
    (byteAt env packet m.frameIdOffset).toNat := rfl

variable (env packet m p frame) in
structure Around (P : DecodeEvent → Prop) : Prop where
  divide : P (.divide m.seqNum)
  count : AllLog P (countSeqNum env packet m p.toGeneralParser)
  time : AllLog P (m.getMicroLidarTime env packet)
  stamp : P (.sensorTimestamp frame.packetNum)
  shutDown : AllLog P (readU8 env packet m.shutDownOffset)
  echoMode : AllLog P (readEchoMode env packet m frame.returnMode)
  frameId : AllLog P (readU8 env packet m.frameIdOffset)

lemma Around.of_byte {P : DecodeEvent → Prop} (hbyte : ∀ o, P (.byte o)) (hdivide : P (.divide m.seqNum))
    (hloss : ∀ n, P (.packetLoss n)) (hstamp : P (.sensorTimestamp frame.packetNum)) :
    Around env packet m p frame P where
  divide := hdivide
  count := by
    rw [countSeqNum]
    split
    · simp only [allLog_bind, allLog_note, hdivide, allLog_readU32 hbyte, hloss, allLog_pure, and_self]
    · exact allLog_pure _
  time := allLog_getMicroLidarTimeU64 hbyte
  stamp := hstamp
  shutDown := allLog_readU8 hbyte
  echoMode := by
    rw [readEchoMode]
    split
    · exact allLog_pure _
    · exact allLog_bind.mpr ⟨allLog_readU8 hbyte, allLog_pure _⟩
  frameId := allLog_readU8 hbyte

lemma Around.of_tail {bounds : Bounds} (htail : ∀ o, m.tailOffset ≤ o → bounds.byte o)
    (hseq : m.tailOffset ≤ m.seqNumOffset) (hecho : ∀ o ∈ m.echoModeOffset, m.tailOffset ≤ o)
    (hutc : m.tailOffset ≤ m.utcOffset) (hloss : ∀ n, bounds.packetLoss n)
    (hstamp : bounds.sensorTimestamp frame.packetNum) : Around env packet m p frame bounds.Allows where
  divide := trivial
  count := by
    rw [countSeqNum]
    split
    · simp only [allLog_bind, allLog_note, allows_readU32, allLog_pure, and_true]
      exact ⟨trivial, fun i _ => htail _ (by omega), hloss _⟩
    · exact allLog_pure _
  time := allows_getMicroLidarTimeU64.mpr
    (timeBytes_of_le (fun o ho => htail o (hutc.trans ho)) (Nat.le_add_right _ _))
  stamp := hstamp
  shutDown := allows_readU8.mpr (htail _ (Nat.le_add_right _ _))
  echoMode := by
    rw [readEchoMode]
    split
    · exact allLog_pure _
    · next o ho => exact allLog_bind.mpr ⟨allows_readU8.mpr (htail o (hecho o ho)), allLog_pure _⟩
  frameId := allows_readU8.mpr (htail _ (Nat.le_add_right _ _))

lemma Around.storeSensorTimestamp {P : DecodeEvent → Prop} (h : Around env packet m p frame P) :
    AllLog P (storeSensorTimestamp frame packet.recvTimestamp (m.getMicroLidarTime env packet)) := by
  rw [Parsing.storeSensorTimestamp, allLog_bind, allLog_bind]
  refine ⟨?_, allLog_note.mpr h.stamp, allLog_pure _⟩
  split
  · exact h.time
  · exact allLog_pure _

lemma Around.decodeMessage {P : DecodeEvent → Prop} (h : Around env packet m p frame P)
    (hwalk : AllLog P (walk frame.pointData)) : AllLog P (decodeMessage env packet m p frame walk) := by
  simp only [EtParser.decodeMessage, allLog_bind, allLog_note, allLog_pure, h.divide, h.count, h.time,
    h.storeSensorTimestamp, h.shutDown, h.echoMode, h.frameId, hwalk, and_self]

variable (walk) in
lemma Around.log {P : DecodeEvent → Prop} (h : Around env packet m p frame P) : ∃ before after : List DecodeEvent,
    (EtParser.decodeMessage env packet m p frame walk).log = before ++ (walk frame.pointData).log ++ after ∧
      (∀ e ∈ before, P e) ∧ ∀ e ∈ after, P e := by
  refine ⟨(do
      note (.divide m.seqNum)
      let counted ← countSeqNum env packet m p.toGeneralParser
      let _ ← m.getMicroLidarTime env packet
      let _ ← Parsing.storeSensorTimestamp frame packet.recvTimestamp (m.getMicroLidarTime env packet)
      let _ ← readU8 env packet m.shutDownOffset
      let _ ← readEchoMode env packet m frame.returnMode
      pure counted : Logged DecodeEvent GeneralParser).log, (readU8 env packet m.frameIdOffset).log, ?_, ?_, h.frameId⟩
  · simp only [EtParser.decodeMessage, log_bind, log_pure, List.append_nil, List.append_assoc]
  · show AllLog P _
    simp only [allLog_bind, allLog_note, allLog_pure, h.divide, h.count, h.time, h.storeSensorTimestamp, h.shutDown,
      h.echoMode, and_self]

end Message

end Decode

end EtParser

end HesaiSdk.Parsing
