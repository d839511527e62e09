import HesaiSdk.UdpParser.Udp14Parser

namespace HesaiSdk.Parsing.Udp14Parser

open Library Library.BlockWalk Lidar UdpProtocol UdpProtocol.V14

variable {env : Environment} {packet : UdpPacket} {h : Header} {bounds : Bounds} {p : Udp14Parser}
  {g : GeneralParser}

lemma allows_readHeader : AllLog bounds.Allows (readHeader env packet) ↔
    bounds.byte 6 ∧ bounds.byte 7 ∧ bounds.byte 9 ∧ bounds.byte 11 := by
  simp [readHeader, sizeofPreHeader]

lemma allows_lidarState : AllLog bounds.Allows (lidarState env packet h) ↔
    (h.hasFuncSafety → bounds.byte (h.funcSafetyOffset + 1)) := by
  rw [lidarState]
  split <;> simp [getLidarState, *]

lemma allows_countSeqNum : AllLog bounds.Allows (countSeqNum env packet h g) ↔
    (h.hasSeqNum → ∀ i < 4, bounds.byte (h.seqNumOffset + i)) ∧
      (h.hasSeqNum → bounds.packetLoss (readU32 env packet h.seqNumOffset).val) := by
  rw [countSeqNum]
  split
  · simp [Bounds.Allows, *]
  · simp [*]

lemma allows_updateMonitorInfo : AllLog bounds.Allows (updateMonitorInfo env packet h g) ↔
    (g.enableUpdateMonitorInfo → ∀ i < 9, bounds.byte (h.tailOffset + i)) := by
  rw [updateMonitorInfo]
  split
  · rename_i he
    simp only [allLog_bind, allows_readU8, allows_readU16, allLog_pure, and_true, he, forall_const]
    constructor
    · rintro ⟨h2, h0, h5, h3, h8, h6⟩ i hi
      have h1 := h0 1 (by omega)
      have h4 := h3 1 (by omega)
      have h7 := h6 1 (by omega)
      have h0 := h0 0 (by omega)
      have h3 := h3 0 (by omega)
      have h6 := h6 0 (by omega)
      interval_cases i <;> assumption
    · intro hb
      refine ⟨hb 2 (by omega), fun i hi => hb i (by omega), hb 5 (by omega), fun i hi => ?_,
        hb 8 (by omega), fun i hi => ?_⟩
      · simpa only [Nat.add_assoc] using hb (3 + i) (by omega)
      · simpa only [Nat.add_assoc] using hb (6 + i) (by omega)
  · simp [*]

lemma allows_getFiretimesCorrection {j : ℕ} {speed dist : ℚ} {optMode angleState : UInt8} :
    AllLog bounds.Allows (p.getFiretimesCorrection j speed optMode angleState dist) := by
  simp only [getFiretimesCorrection]
  split_ifs <;> simp [Bounds.Allows]

lemma allows_readChnUnit {o : ℕ} : AllLog bounds.Allows (readChnUnit env packet h.hasConfidenceLevel o) ↔
    ∀ i < h.unitSize, bounds.byte (o + i) := by
  have hiff (n : ℕ) (hn : n = 3 ∨ n = 4) : (∀ i < n, bounds.byte (o + i)) ↔
      (∀ i < 2, bounds.byte (o + i)) ∧ bounds.byte (o + 2) ∧ (n = 4 → bounds.byte (o + 3)) := by
    constructor
    · exact fun hb => ⟨fun i hi => hb i (by omega), hb 2 (by omega), fun h4 => hb 3 (by omega)⟩
    · rintro ⟨h0, h2, h3⟩ i hi
      rcases Nat.lt_or_ge i 2 with h | h
      · exact h0 i h
      · rcases Nat.eq_or_lt_of_le h with rfl | h
        · exact h2
        · obtain rfl : i = 3 := by omega
          exact h3 (by omega)
  rw [Header.unitSize, readChnUnit, allLog_bind, allLog_bind, allows_readU16, allows_readU8]
  by_cases hc : h.hasConfidenceLevel
  · rw [if_pos hc, if_pos hc, sizeofBodyChnUnit, hiff 4 (Or.inr rfl)]
    simp
  · rw [if_neg hc, if_neg hc, sizeofBodyChnUnitNoConf, hiff 3 (Or.inl rfl)]
    simp

lemma allows_blockAzimuth {optMode : UInt8} {head : BlockHead} {j : ℕ} {unit : ChnUnit} :
    AllLog bounds.Allows (p.blockAzimuth h g optMode head j unit) := by
  rw [blockAzimuth]
  split
  · exact allLog_bind.mpr ⟨allows_getFiretimesCorrection, allLog_pure _⟩
  · exact allLog_pure _

def blockOffset (h : Header) (b : ℕ) : ℕ := Header.bodyOffset + h.blockSize * b

def WalkBytes (h : Header) (byte : ℕ → Prop) : Prop :=
  ∀ b < h.getBlockNum, (∀ i < 2, byte (h.tailOffset + 9 + i)) ∧ (∀ i < 2, byte (blockOffset h b + i)) ∧
    ∀ j < h.getLaserNum, ∀ i < h.unitSize,
      byte (blockOffset h b + sizeofBodyAzimuth + h.unitSize * j + i)

lemma allows_walk {optMode : UInt8} {index : ℕ} {slots : ℕ → PointDecodeData} {a : UInt16} :
    AllLog bounds.Allows ((p.bodyReader env packet h g optMode).walk h.getLaserNum h.getBlockNum
      (⟨Header.bodyOffset, index, slots⟩, a)) ↔
      WalkBytes h bounds.byte ∧
        ∀ b < h.getBlockNum, ∀ j < h.getLaserNum, bounds.pointData (index + h.getLaserNum * b + j) := by
  have hh (b o : ℕ) : AllLog bounds.Allows ((p.bodyReader env packet h g optMode).readHead b o) ↔
      (∀ i < 2, bounds.byte (h.tailOffset + 9 + i)) ∧ ∀ i < 2, bounds.byte (o + i) := by
    simp only [bodyReader, getAngleState, allLog_bind, allows_readU16, allLog_note, Bounds.Allows,
      allLog_pure, and_true]
  have hu (head : BlockHead) (j o : ℕ) (slot : PointDecodeData) :
      AllLog bounds.Allows ((p.bodyReader env packet h g optMode).writeUnit head j o slot) ↔
        ∀ i < h.unitSize, bounds.byte (o + i) := by
    simp only [bodyReader, allLog_bind, allows_readChnUnit, allows_blockAzimuth, allLog_pure, and_true]
  simp only [BlockReader.allLog_walk, hh, BlockReader.unitAt, hu, WalkBytes]
  constructor
  · intro hw
    exact ⟨fun b hb => ⟨(hw b hb).1.1, (hw b hb).1.2, fun j hj => ((hw b hb).2 j hj).1⟩,
      fun b hb j hj => ((hw b hb).2 j hj).2⟩
  · rintro ⟨hw, hp⟩ b hb
    exact ⟨⟨(hw b hb).1, (hw b hb).2.1⟩, fun j hj => ⟨(hw b hb).2.2 j hj, hp b hb j hj⟩⟩

def BodyBytes (env : Environment) (packet : UdpPacket) (h : Header) (monitor : Bool) (byte : ℕ → Prop) : Prop :=
  (h.hasFuncSafety → byte (h.funcSafetyOffset + 1)) ∧
  (h.hasSeqNum → ∀ i < 4, byte (h.seqNumOffset + i)) ∧
  TimeBytes env packet tmYear (h.tailOffset + 15) (h.tailOffset + 21) byte ∧
  (∀ i < 4, byte (h.tailOffset + 11 + i)) ∧
  (monitor → ∀ i < 9, byte (h.tailOffset + i)) ∧
  WalkBytes h byte

lemma bodyBytes_true {monitor : Bool} : BodyBytes env packet h monitor fun _ => True := by
  simp [BodyBytes, WalkBytes, TimeBytes]

variable {Pt : Type} {frame : LidarDecodedFrame Pt}

lemma countSeqNum_monitor :
    (countSeqNum env packet h g).val.enableUpdateMonitorInfo = g.enableUpdateMonitorInfo := by
  rw [countSeqNum]
  split
  · exact g.calPktLoss_monitor env _
  · rfl

lemma allows_decodeBody : AllLog bounds.Allows (decodeBody env packet h p frame) ↔
    BodyBytes env packet h p.enableUpdateMonitorInfo bounds.byte ∧
      bounds.sensorTimestamp frame.packetNum ∧
      (h.hasSeqNum → bounds.packetLoss (readU32 env packet h.seqNumOffset).val) ∧
      ∀ b < h.getBlockNum, ∀ j < h.getLaserNum, bounds.pointData
        (frame.packetNum * h.getBlockNum * h.getLaserNum + h.getLaserNum * b + j) := by
  simp only [decodeBody, allLog_bind, allows_lidarState, allows_countSeqNum, allows_storeSensorTimestamp,
    getMicroLidarTime, allows_getMicroLidarTimeU64, allows_readU16, allows_readU8,
    allows_updateMonitorInfo, allows_walk, allLog_pure, and_true, GeneralParser.tick,
    GeneralParser.calPktTimeLoss_monitor, countSeqNum_monitor, BodyBytes]
  have hfour : (∀ i < 4, bounds.byte (h.tailOffset + 11 + i)) ↔
      (∀ i < 2, bounds.byte (h.tailOffset + 13 + i)) ∧ bounds.byte (h.tailOffset + 12) ∧
        bounds.byte (h.tailOffset + 11) := by
    constructor
    · intro hb
      refine ⟨fun i hi => ?_, hb 1 (by omega), hb 0 (by omega)⟩
      have ho : h.tailOffset + 13 + i = h.tailOffset + 11 + (2 + i) := by omega
      exact ho ▸ hb (2 + i) (by omega)
    · rintro ⟨h2, h1, h0⟩ i hi
      have h3 := h2 1 (by omega)
      have h2 := h2 0 (by omega)
      interval_cases i <;> assumption
  rw [hfour]
  constructor
  · rintro ⟨hs, ⟨hq, hn⟩, ⟨-, hi⟩, ht, h2, h1, h0, hm, hw, hp⟩
    exact ⟨⟨hs, hq, ht, ⟨h2, h1, h0⟩, hm, hw⟩, hi, hn, hp⟩
  · rintro ⟨⟨hs, hq, ht, ⟨h2, h1, h0⟩, hm, hw⟩, hi, hn, hp⟩
    exact ⟨hs, ⟨hq, hn⟩, ⟨fun _ => ht, hi⟩, ht, h2, h1, h0, hm, hw, hp⟩

def readEnd (env : Environment) (packet : UdpPacket) : ℕ :=
  let h := headerAt env packet
  let year := byteAt env packet (h.tailOffset + 15)
  if h.hasSeqNum then h.seqNumOffset + sizeofTailSeqNum
  else if year ≠ 0 ∧ year < 70 then h.tailOffset + 16
  else h.tailOffset + 25

lemma timeBytes_iff {tail n : ℕ} :
    TimeBytes env packet tmYear (tail + 15) (tail + 21) (· < n) ↔
      (if byteAt env packet (tail + 15) ≠ 0 ∧ byteAt env packet (tail + 15) < 70
        then tail + 16 else tail + 25) ≤ n := by
  have hy : tmYear (byteAt env packet (tail + 15)) = none ↔ byteAt env packet (tail + 15) < 70 := by
    rw [tmYear]
    split <;> simp [*]
  simp only [TimeBytes, hy]
  split_ifs with h1 h2
  · exact Iff.rfl
  · exact ⟨fun h => by have := h.2 3 (by omega); omega, fun h => ⟨fun i _ => by omega, fun i _ => by omega⟩⟩
  · exact ⟨fun h => by have := h.2.2 3 (by omega); omega,
      fun h => ⟨by omega, fun i _ => by omega, fun i _ => by omega⟩⟩

lemma walkBytes_of_le {n : ℕ} (hn : h.tailOffset + 11 ≤ n) : WalkBytes h (· < n) := by
  intro b hb
  have hblocks : h.blockSize * b + h.blockSize ≤ h.blockSize * h.getBlockNum := by
    rw [← Nat.mul_succ]
    exact Nat.mul_le_mul_left _ hb
  have hbody : Header.bodyOffset + h.blockSize * h.getBlockNum ≤ h.tailOffset := by
    rw [Header.tailOffset, Header.funcSafetyOffset]
    omega
  have hsize : h.blockSize = sizeofBodyAzimuth + h.unitSize * h.getLaserNum := rfl
  refine ⟨fun i hi => ?_, fun i hi => ?_, fun j hj i hi => ?_⟩
  · show h.tailOffset + 9 + i < n
    omega
  · show Header.bodyOffset + h.blockSize * b + i < n
    simp only [sizeofBodyAzimuth] at hsize
    omega
  · show Header.bodyOffset + h.blockSize * b + sizeofBodyAzimuth + h.unitSize * j + i < n
    have hunits : h.unitSize * j + h.unitSize ≤ h.unitSize * h.getLaserNum := by
      rw [← Nat.mul_succ]
      exact Nat.mul_le_mul_left _ hj
    omega

lemma bodyBytes_iff {monitor : Bool} {n : ℕ} :
    BodyBytes env packet (headerAt env packet) monitor (· < n) ↔ readEnd env packet ≤ n := by
  rw [BodyBytes, timeBytes_iff, readEnd]
  have hfs : (headerAt env packet).funcSafetyOffset + sizeofBodyCrc ≤
      (headerAt env packet).tailOffset + sizeofBodyCrc := by
    rw [Header.tailOffset]
    omega
  have hseq : (headerAt env packet).seqNumOffset = (headerAt env packet).tailOffset + 26 := rfl
  generalize hh : headerAt env packet = h at *
  have hstate : h.hasFuncSafety → h.funcSafetyOffset + 1 < h.tailOffset := by
    intro hf
    rw [Header.tailOffset, if_pos hf, sizeofFuncSafety]
    omega
  constructor
  · rintro ⟨-, hq, ht, -⟩
    split_ifs with hs hy
    · have := hq hs 3 (by omega)
      rw [sizeofTailSeqNum]
      omega
    · rwa [if_pos hy] at ht
    · rwa [if_neg hy] at ht
  · intro hn
    have ht : (if byteAt env packet (h.tailOffset + 15) ≠ 0 ∧ byteAt env packet (h.tailOffset + 15) < 70
        then h.tailOffset + 16 else h.tailOffset + 25) ≤ n := by
      simp only [sizeofTailSeqNum] at hn
      split_ifs at hn ⊢ <;> omega
    have hb : h.tailOffset + 16 ≤ n := by
      split_ifs at ht <;> omega
    refine ⟨fun hf => ?_, fun hs i hi => ?_, ht, fun i hi => ?_, fun _ i hi => ?_,
      walkBytes_of_le (by omega)⟩
    · have := hstate hf
      omega
    · rw [if_pos hs, sizeofTailSeqNum] at hn
      omega
    · show h.tailOffset + 11 + i < n
      omega
    · show h.tailOffset + i < n
      omega

lemma allows_decodePacket (h0 : bounds.byte 0) (h1 : bounds.byte 1) :
    AllLog bounds.Allows (p.decodePacket env packet frame) ↔
      (p.getCorrectionFile = true → Delimited env packet →
        (bounds.byte 6 ∧ bounds.byte 7 ∧ bounds.byte 9 ∧ bounds.byte 11) ∧
        AllLog bounds.Allows (decodeBody env packet (headerAt env packet) p frame)) := by
  rw [decodePacket]
  cases hc : p.getCorrectionFile with
  | false => simp [reject]
  | true => simp [allows_afterDelimiter h0 h1, allows_readHeader, headerAt]

/-- Every byte offset that decoding an accepted packet reads lies inside the packet exactly when
the packet is as long as its own header says. -/
theorem decodePacket_reads_inside_iff (env : Environment) (p : Udp14Parser) (frame : LidarDecodedFrame Pt)
    (packet : UdpPacket) (h6 : 6 ≤ packet.packetLen)
    (hret : (p.decodePacket env packet frame).val.ret = 0) :
    (∀ o : ℕ, .byte o ∈ (p.decodePacket env packet frame).log → (o : ℤ) < packet.packetLen) ↔
      (readEnd env packet : ℤ) ≤ packet.packetLen := by
  obtain ⟨hc, hd⟩ := decodePacket_ret.mp hret
  obtain ⟨n, hn⟩ := Int.eq_ofNat_of_zero_le (show 0 ≤ packet.packetLen by omega)
  have hall : (∀ o : ℕ, .byte o ∈ (p.decodePacket env packet frame).log → (o : ℤ) < packet.packetLen) ↔
      AllLog (Bounds.Allows { byte := (· < n) }) (p.decodePacket env packet frame) := by
    rw [Bounds.allows_byte, hn]
    exact forall₂_congr fun o _ => Int.ofNat_lt
  rw [hall, allows_decodePacket (show 0 < n by omega) (show 1 < n by omega), allows_decodeBody, bodyBytes_iff, hn]
  have hend : 12 + 16 ≤ readEnd env packet := by
    have ht : 12 ≤ (headerAt env packet).tailOffset := by
      rw [Header.tailOffset, Header.funcSafetyOffset, Header.bodyOffset, sizeofPreHeader, sizeofHeader]
      omega
    simp only [readEnd, Header.seqNumOffset, sizeofTail, sizeofTailSeqNum]
    split_ifs <;> omega
  constructor
  · intro hb
    exact_mod_cast (hb hc hd).2.1
  · intro hb _ _
    have hb : readEnd env packet ≤ n := by exact_mod_cast hb
    exact ⟨⟨by show 6 < n; omega, by show 7 < n; omega, by show 9 < n; omega, by show 11 < n; omega⟩,
      hb, trivial, fun _ => trivial, fun _ _ _ _ => trivial⟩

/-- Two blocks of three units with confidence, the functional safety, the tail and a sequence number. -/
def safePacket : UdpPacket :=
  UdpPacket.ofBytes ([0xEE, 0xFF, 1, 4, 0, 0, 3, 2, 0, 4, 0, 0x15] ++ List.replicate 79 1)

theorem decodePacket_reads_inside_safePacket :
    (readEnd default safePacket : ℤ) = safePacket.packetLen ∧
      (decodePacket default safePacket { (default : Udp14Parser) with getCorrectionFile := true }
        (default : LidarDecodedFrame ℕ)).val.ret = 0 ∧
      ∀ o : ℕ, .byte o ∈ (decodePacket default safePacket { (default : Udp14Parser) with getCorrectionFile := true }
        (default : LidarDecodedFrame ℕ)).log → (o : ℤ) < safePacket.packetLen := by
  have hend : (readEnd default safePacket : ℤ) = safePacket.packetLen := by decide +kernel
  have hret : (decodePacket default safePacket { (default : Udp14Parser) with getCorrectionFile := true }
      (default : LidarDecodedFrame ℕ)).val.ret = 0 := by decide +kernel
  exact ⟨hend, hret, (decodePacket_reads_inside_iff default { (default : Udp14Parser) with getCorrectionFile := true }
    default safePacket (by decide) hret).mpr hend.le⟩

/-- A packet of 6 bytes is accepted, and its header is read behind its end. -/
theorem decodePacket_reads_outside : ¬ ∀ (env : Environment) (p : Udp14Parser) (frame : LidarDecodedFrame ℕ)
    (packet : UdpPacket), 6 ≤ packet.packetLen → packet.packetLen ≤ kBufSize →
    (p.decodePacket env packet frame).val.ret = 0 →
    ∀ o : ℕ, .byte o ∈ (p.decodePacket env packet frame).log → (o : ℤ) < packet.packetLen := by
  intro h
  have := h default { (default : Udp14Parser) with getCorrectionFile := true } default
    (UdpPacket.ofBytes [0xEE, 0xFF, 1, 4, 0, 0]) (by decide) (by decide) (by decide) 6 (by decide)
  exact absurd this (by decide)

end HesaiSdk.Parsing.Udp14Parser
