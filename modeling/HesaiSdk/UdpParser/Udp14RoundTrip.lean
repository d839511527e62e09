import HesaiSdk.UdpParser.Udp14Accesses
import HesaiSdk.UdpProtocol.V14Message

namespace HesaiSdk.Parsing.Udp14Parser

open Library Library.BlockWalk Library.ByteLayout Lidar UdpProtocol UdpProtocol.V14

variable {env : Environment} {packet : UdpPacket} {m : Message} {p : Udp14Parser} {g : GeneralParser}
  {Pt : Type} {frame : LidarDecodedFrame Pt}

section Reads

variable (hm : Holds (byteAt env packet) 0 m.encode)

include hm

lemma headerAt_of_holds : headerAt env packet = m.header := by
  obtain ⟨h6, h7, h9, h11⟩ := m.holds_header hm
  simp only [headerAt, readHeader, val_bind, val_pure, readU8_val, sizeofPreHeader, h6, h7, h9, h11]

lemma readChnUnit_of_holds {b j : ℕ} (hb : b < m.header.getBlockNum) (hj : j < m.header.getLaserNum) :
    (readChnUnit env packet m.header.hasConfidenceLevel
      (blockOffset m.header b + sizeofBodyAzimuth + m.header.unitSize * j)).val =
    ⟨m.distance b j, m.reflectivity b j,
      if m.header.hasConfidenceLevel then some (m.confidence b j) else none⟩ := by
  have hblock := m.holds_block hm hb
  rw [Message.encodeBlock, holds_append, length_leBytes] at hblock
  have hunit := holds_flatMap_range (fun j _ => m.length_encodeUnit b j) hblock.2 hj
  rw [Message.encodeUnit, holds_append, holds_append, length_leBytes] at hunit
  obtain ⟨⟨hd, hr, -⟩, hc⟩ := hunit
  have hdist := readU16_of_holds hd
  rw [blockOffset, sizeofBodyAzimuth, readChnUnit, val_bind, val_bind, hdist, readU8_val, hr]
  by_cases hconf : m.header.hasConfidenceLevel
  · rw [if_pos hconf] at hc
    rw [if_pos hconf, if_pos hconf, val_bind, val_pure, readU8_val]
    simpa using hc.1
  · rw [if_neg hconf, if_neg hconf, val_pure]

lemma headAt_of_holds {b : ℕ} (hb : b < m.header.getBlockNum) (optMode : UInt8) :
    ((p.bodyReader env packet m.header g optMode).headAt m.header.getLaserNum Header.bodyOffset b).azimuth =
      m.azimuth b := by
  have hblock := m.holds_block hm hb
  rw [Message.encodeBlock, holds_append] at hblock
  exact readU16_of_holds hblock.1

lemma unitAt_of_holds (hf : p.getFiretimeFile = false) {b j : ℕ} (hb : b < m.header.getBlockNum)
    (hj : j < m.header.getLaserNum) (optMode : UInt8) (slot : PointDecodeData) :
    ((p.bodyReader env packet m.header g optMode).unitAt m.header.getLaserNum Header.bodyOffset b j slot).val =
      { slot with
        azimuth := (m.azimuth b).toNat
        elevation := 0
        distances := m.distance b j
        reflectivities := m.reflectivity b j
        confidence := if m.header.hasConfidenceLevel then m.confidence b j else slot.confidence } := by
  have hunit := readChnUnit_of_holds hm hb hj
  have hhead := headAt_of_holds (p := p) (g := g) hm hb optMode
  rw [BlockReader.unitAt]
  generalize (p.bodyReader env packet m.header g optMode).headAt m.header.getLaserNum
    Header.bodyOffset b = head at hhead
  have ho : (p.bodyReader env packet m.header g optMode).blockOffset m.header.getLaserNum
      Header.bodyOffset b + (p.bodyReader env packet m.header g optMode).headSize +
      (p.bodyReader env packet m.header g optMode).unitSize * j =
      blockOffset m.header b + sizeofBodyAzimuth + m.header.unitSize * j := rfl
  rw [ho]
  simp only [bodyReader, val_bind, val_pure, hunit, blockAzimuth, hf, hhead]
  by_cases hc : m.header.hasConfidenceLevel <;> simp [hc]

end Reads

/-- What decoding the message `m` into slot group `frame.packetNum` of `frame` has to leave. -/
structure Decodes (env : Environment) (m : Message) (packet : UdpPacket) (p : Udp14Parser)
    (frame : LidarDecodedFrame Pt) (d : Logged DecodeEvent (Decoded Udp14Parser Pt)) : Prop where
  ret : d.val.ret = 0
  slot : ∀ b < m.header.getBlockNum, ∀ j < m.header.getLaserNum,
    let k := frame.packetNum * m.header.getBlockNum * m.header.getLaserNum + b * m.header.getLaserNum + j
    d.val.frame.pointData k =
      { frame.pointData k with
        azimuth := (m.azimuth b).toNat
        elevation := 0
        distances := m.distance b j
        reflectivities := m.reflectivity b j
        confidence := if m.header.hasConfidenceLevel then m.confidence b j else (frame.pointData k).confidence }
  otherSlots : ∀ k, k < frame.packetNum * m.header.getBlockNum * m.header.getLaserNum ∨
    (frame.packetNum + 1) * m.header.getBlockNum * m.header.getLaserNum ≤ k →
    d.val.frame.pointData k = frame.pointData k
  perPointsNum : d.val.frame.perPointsNum = m.header.getBlockNum * m.header.getLaserNum
  blockNum : d.val.frame.blockNum = m.header.getBlockNum
  laserNum : d.val.frame.laserNum = m.header.getLaserNum
  distanceUnit : d.val.frame.distanceUnit = m.header.getDistUnit
  sensorTimestamp : d.val.frame.sensorTimestamp frame.packetNum =
    if frame.useTimestampType = 0 then m.tail.microTime env else packet.recvTimestamp
  seqNum : ∀ n, .packetLoss n ∈ d.log ↔ m.header.hasSeqNum ∧ n = m.seqNum
  lossCounts : d.val.parser.lossCounts =
    (if m.header.hasSeqNum then p.calPktLoss env m.seqNum else p.toGeneralParser).lossCounts
  packetNum : d.val.frame.packetNum = frame.packetNum + 1
  inBuffer : ∀ o, .byte o ∈ d.log → o < kBufSize
  inPointData : ∀ k, .pointData k ∈ d.log → k < kMaxPointsNumPerFrame
  inSensorTimestamp : ∀ k, .sensorTimestamp k ∈ d.log → k < kMaxPacketNumPerFrame

lemma decodeBody_pointData (h : Header) : ∃ g optMode,
    (decodeBody env packet h p frame).val.frame.pointData =
      (p.bodyReader env packet h g optMode).filled h.getLaserNum h.getBlockNum Header.bodyOffset
        (frame.packetNum * h.getBlockNum * h.getLaserNum) frame.pointData := by
  simp only [decodeBody, val_bind, val_pure, BlockReader.walk_val]
  exact ⟨_, _, rfl⟩

lemma decodeBody_sensorTimestamp (h : Header) :
    (decodeBody env packet h p frame).val.frame.sensorTimestamp frame.packetNum =
      if frame.useTimestampType = 0 then (getMicroLidarTime env packet h.tailOffset).val
      else packet.recvTimestamp := by
  simp only [decodeBody, val_bind, val_pure, storeSensorTimestamp_val, Function.update_self]

lemma decodeBody_lossCounts (h : Header) :
    (decodeBody env packet h p frame).val.parser.lossCounts =
      (countSeqNum env packet h p.toGeneralParser).val.lossCounts := by
  have hu (q : GeneralParser) : (updateMonitorInfo env packet h q).val.lossCounts = q.lossCounts := by
    rw [updateMonitorInfo]
    split <;> rfl
  simp only [decodeBody, val_bind, val_pure, isNeedFrameSplit, GeneralParser.noteAzimuth_lossCounts,
    GeneralParser.isNeedFrameSplit_lossCounts, hu]
  exact GeneralParser.calPktTimeLoss_lossCounts _ _ _

lemma countSeqNum_of_holds (hm : Holds (byteAt env packet) 0 m.encode) :
    (countSeqNum env packet m.header g).val = if m.header.hasSeqNum then g.calPktLoss env m.seqNum else g := by
  rw [countSeqNum]
  by_cases hs : m.header.hasSeqNum
  · rw [if_pos hs, if_pos hs, val_bind, val_bind, val_pure, readU32_of_holds (m.holds_seqNum hm hs)]
  · rw [if_neg hs, if_neg hs, val_pure]

lemma readEnd_le_of_holds (hm : Holds (byteAt env packet) 0 m.encode) : readEnd env packet ≤ m.encode.length := by
  rw [m.length_encode, readEnd, headerAt_of_holds hm, Header.seqNumOffset, sizeofTail]
  split_ifs <;> omega

lemma decodes_of_holds (hm : Holds (byteAt env packet) 0 m.encode) (hfit : m.encode.length ≤ kBufSize)
    (hc : p.getCorrectionFile = true) (hf : p.getFiretimeFile = false)
    (hk : frame.packetNum < kMaxPacketNumPerFrame)
    (hroom : (frame.packetNum + 1) * m.header.getBlockNum * m.header.getLaserNum ≤ kMaxPointsNumPerFrame) :
    Decodes env m packet p frame (p.decodePacket env packet frame) := by
  have hd : Delimited env packet := m.holds_delimiter hm
  have hh := headerAt_of_holds hm
  have hv : (p.decodePacket env packet frame).val = (decodeBody env packet m.header p frame).val := by
    rw [decodePacket_val, if_pos ⟨hc, hd⟩, hh]
  have hsucc : (frame.packetNum + 1) * m.header.getBlockNum * m.header.getLaserNum =
      frame.packetNum * m.header.getBlockNum * m.header.getLaserNum +
        m.header.getLaserNum * m.header.getBlockNum := by ring
  have hlog (bounds : Bounds) (h0 : bounds.byte 0) (h1 : bounds.byte 1) :
      AllLog bounds.Allows (p.decodePacket env packet frame) ↔
        (bounds.byte 6 ∧ bounds.byte 7 ∧ bounds.byte 9 ∧ bounds.byte 11) ∧
        AllLog bounds.Allows (decodeBody env packet m.header p frame) := by
    rw [allows_decodePacket h0 h1, hh]
    exact ⟨fun h => h hc hd, fun h _ _ => h⟩
  obtain ⟨g, optMode, hdata⟩ := @decodeBody_pointData env packet p Pt frame m.header
  constructor
  case ret => exact decodePacket_ret.mpr ⟨hc, hd⟩
  case slot =>
    intro b hb j hj
    dsimp only
    rw [hv, hdata, BlockReader.filled_unit _ hb hj, unitAt_of_holds hm hf hb hj]
  case otherSlots =>
    intro k hk
    rw [hv, hdata]
    rcases hk with hk | hk
    · exact BlockReader.filled_of_lt _ hk
    · exact BlockReader.filled_of_ge _ (hsucc ▸ hk)
  case perPointsNum => rw [hv]; rfl
  case blockNum => rw [hv]; rfl
  case laserNum => rw [hv]; rfl
  case distanceUnit => rw [hv]; rfl
  case packetNum => rw [hv]; rfl
  case sensorTimestamp =>
    rw [hv, decodeBody_sensorTimestamp, Tail.getMicroLidarTime_of_holds (m.holds_tail hm)]
  case lossCounts => rw [hv, decodeBody_lossCounts, countSeqNum_of_holds hm]
  case seqNum =>
    intro n
    have hne : (∀ n', .packetLoss n' ∈ (p.decodePacket env packet frame).log → n' ≠ n) ↔
        ¬(m.header.hasSeqNum ∧ n = m.seqNum) := by
      rw [← Bounds.allows_packetLoss, hlog _ trivial trivial, allows_decodeBody]
      constructor
      · rintro ⟨-, -, -, h, -⟩ ⟨hs, rfl⟩
        exact h hs (readU32_of_holds (m.holds_seqNum hm hs))
      · intro h
        refine ⟨⟨trivial, trivial, trivial, trivial⟩, bodyBytes_true, trivial, fun hs he => ?_,
          fun _ _ _ _ => trivial⟩
        exact h ⟨hs, he.symm.trans (readU32_of_holds (m.holds_seqNum hm hs))⟩
    refine ⟨fun he => ?_, fun h => ?_⟩
    · by_contra h
      exact hne.mpr h n he rfl
    · by_contra he
      exact hne.mp (fun n' he' hn => he (hn ▸ he')) h
  case inBuffer =>
    have hend : readEnd env packet ≤ kBufSize := (readEnd_le_of_holds hm).trans hfit
    rw [← Bounds.allows_byte, hlog _ (by decide) (by decide), allows_decodeBody]
    exact ⟨⟨by decide, by decide, by decide, by decide⟩, hh ▸ bodyBytes_iff.mpr hend, trivial,
      fun _ => trivial, fun _ _ _ _ => trivial⟩
  case inPointData =>
    rw [← Bounds.allows_pointData, hlog _ trivial trivial, allows_decodeBody]
    refine ⟨⟨trivial, trivial, trivial, trivial⟩, bodyBytes_true, trivial, fun _ => trivial, fun b hb j hj => ?_⟩
    have hblock : m.header.getLaserNum * b + m.header.getLaserNum ≤
        m.header.getLaserNum * m.header.getBlockNum := by
      rw [← Nat.mul_succ]
      exact Nat.mul_le_mul_left _ hb
    dsimp only
    omega
  case inSensorTimestamp =>
    rw [← Bounds.allows_sensorTimestamp, hlog _ trivial trivial, allows_decodeBody]
    exact ⟨⟨trivial, trivial, trivial, trivial⟩, bodyBytes_true, hk, fun _ => trivial, fun _ _ _ _ => trivial⟩

/-- Decoding undoes encoding. -/
theorem decodePacket_writeTo (env : Environment) (m : Message) (packet : UdpPacket) (p : Udp14Parser)
    (frame : LidarDecodedFrame Pt) (hfit : m.encode.length ≤ kBufSize)
    (hc : p.getCorrectionFile = true) (hf : p.getFiretimeFile = false)
    (hk : frame.packetNum < kMaxPacketNumPerFrame)
    (hroom : (frame.packetNum + 1) * m.header.getBlockNum * m.header.getLaserNum ≤ kMaxPointsNumPerFrame) :
    Decodes env m (m.writeTo packet) p frame (p.decodePacket env (m.writeTo packet) frame) :=
  decodes_of_holds (m.holds_writeTo env packet hfit) hfit hc hf hk hroom

theorem decodePacket_writeTo_default : Decodes default default ((default : Message).writeTo default)
    { (default : Udp14Parser) with getCorrectionFile := true } (default : LidarDecodedFrame ℕ)
    (decodePacket default ((default : Message).writeTo default)
      { (default : Udp14Parser) with getCorrectionFile := true } default) :=
  decodePacket_writeTo default default default { (default : Udp14Parser) with getCorrectionFile := true }
    default (by decide) rfl rfl (by decide) (by decide)

/-- With the receive time in use, the time of the frame is not the one of the message. -/
theorem decodePacket_writeTo_recvTimestamp : ¬ ∀ (env : Environment) (m : Message) (packet : UdpPacket)
    (p : Udp14Parser) (frame : LidarDecodedFrame ℕ), m.encode.length ≤ kBufSize →
    p.getCorrectionFile = true → p.getFiretimeFile = false → frame.packetNum < kMaxPacketNumPerFrame →
    (frame.packetNum + 1) * m.header.getBlockNum * m.header.getLaserNum ≤ kMaxPointsNumPerFrame →
    (p.decodePacket env (m.writeTo packet) frame).val.frame.sensorTimestamp frame.packetNum =
      m.tail.microTime env := by
  intro h
  have := h default default { (default : UdpPacket) with recvTimestamp := 7 }
    { (default : Udp14Parser) with getCorrectionFile := true }
    { (default : LidarDecodedFrame ℕ) with useTimestampType := 1 } (by decide) rfl rfl (by decide) (by decide)
  exact absurd this (by decide)

end HesaiSdk.Parsing.Udp14Parser
