import HesaiSdk.UdpParser.LossAccounting
import HesaiSdk.UdpParser.Rotation
import HesaiSdk.UdpParser.Udp31Parser
import HesaiSdk.UdpParser.Udp32Parser
import HesaiSdk.UdpParser.UdpP40Parser
import HesaiSdk.UdpParser.UdpP64Parser

/-! Decoding the packet that ends a frame a second time. -/

namespace HesaiSdk.Parsing

open Library Lidar UdpProtocol

namespace GeneralParser

variable (env : Environment) {p q g : GeneralParser} {azimuth : UInt16} {n : UInt32}
  {need : UInt16 → GeneralParser → GeneralParser × Bool}

def countSeqNum : Option UInt32 → GeneralParser → GeneralParser
  | none, p => p
  | some n, p => p.calPktLoss env n

structure Alike (p q : GeneralParser) : Prop where
  split : p.splitState = q.splitState
  flag : p.rotationFlag = q.rotationFlag
  enable : p.enablePacketLossTool = q.enablePacketLossTool
  losses : p.lossCounts = q.lossCounts

lemma Alike.trans (h : Alike p q) (hg : Alike q g) : Alike p g :=
  ⟨h.split.trans hg.split, h.flag.trans hg.flag, h.enable.trans hg.enable, h.losses.trans hg.losses⟩

lemma calPktTimeLoss_alike (t : UInt64) : Alike (p.calPktTimeLoss env t) p := by
  obtain ⟨_, _, h⟩ := p.calPktTimeLoss_frame env t
  rw [h]
  exact ⟨rfl, rfl, rfl, rfl⟩

lemma Alike.sped (h : Alike p q) (spinSpeed : UInt16) (isDualReturn : Bool) :
    Alike { p.tick with spinSpeed := spinSpeed, isDualReturn := isDualReturn } q :=
  ⟨h.split, h.flag, h.enable, h.losses⟩

lemma noteAzimuth_alike (h : Alike p q) : Alike (p.noteAzimuth azimuth) (q.noteAzimuth azimuth) := by
  have hsplit := h.split
  simp only [splitState, Prod.mk.injEq] at hsplit
  refine ⟨?_, ?_, ?_, ?_⟩
  · rw [noteAzimuth_splitState, noteAzimuth_splitState, h.split, hsplit.1, hsplit.2.2]
  · obtain ⟨_, _, hp⟩ := p.noteAzimuth_frame azimuth
    obtain ⟨_, _, hq⟩ := q.noteAzimuth_frame azimuth
    rw [hp, hq]
    exact h.flag
  · obtain ⟨_, _, hp⟩ := p.noteAzimuth_frame azimuth
    obtain ⟨_, _, hq⟩ := q.noteAzimuth_frame azimuth
    rw [hp, hq]
    exact h.enable
  · rw [noteAzimuth_lossCounts, noteAzimuth_lossCounts, h.losses]

lemma isNeedFrameSplit_rotationFlag : (p.isNeedFrameSplit azimuth).1.rotationFlag =
    if p.lastLastAzimuth = -1 ∨ p.division azimuth.toNat = 0 then p.rotationFlag
    else if p.lastLastAzimuth - p.lastAzimuth = p.division azimuth.toNat ∨
      p.lastAzimuth - azimuth.toNat = p.division azimuth.toNat then -1 else 1 := by
  have hlast : p.normalizeFrameStart.lastAzimuth = p.lastAzimuth := by
    rw [normalizeFrameStart]
    split_ifs <;> rfl
  have hlastLast : p.normalizeFrameStart.lastLastAzimuth = p.lastLastAzimuth := by
    rw [normalizeFrameStart]
    split_ifs <;> rfl
  have hflag : p.normalizeFrameStart.rotationFlag = p.rotationFlag := by
    rw [normalizeFrameStart]
    split_ifs <;> rfl
  have hdivision : p.normalizeFrameStart.division azimuth.toNat = p.division azimuth.toNat := by
    rw [division, division, hlast, hlastLast]
  simp only [isNeedFrameSplit, hlastLast, hlast, hdivision]
  by_cases hnone : p.lastLastAzimuth = -1
  · rw [if_pos hnone, if_pos (Or.inl hnone), hflag]
  · rw [if_neg hnone]
    by_cases hzero : p.division azimuth.toNat = 0
    · rw [if_pos hzero, if_pos (Or.inr hzero), hflag]
    · rw [if_neg hzero, if_neg (not_or.mpr ⟨hnone, hzero⟩)]

lemma isNeedFrameSplit_alike (h : Alike p q) :
    Alike (p.isNeedFrameSplit azimuth).1 (q.isNeedFrameSplit azimuth).1 := by
  have hstart := congrArg Prod.fst (normalizeFrameStart_congr h.split)
  have hstate := h.split
  simp only [splitState, Prod.mk.injEq] at hstate
  refine ⟨?_, ?_, ?_, ?_⟩
  · apply Prod.ext
    · exact isNeedFrameSplit_start.trans (hstart.trans isNeedFrameSplit_start.symm)
    · exact isNeedFrameSplit_lasts.trans ((congrArg _ h.split).trans isNeedFrameSplit_lasts.symm)
  · have hdivision : p.division azimuth.toNat = q.division azimuth.toNat := by
      rw [division, division, hstate.2.1, hstate.2.2]
    rw [isNeedFrameSplit_rotationFlag, isNeedFrameSplit_rotationFlag, hdivision, hstate.2.1, hstate.2.2, h.flag]
  · obtain ⟨_, _, hp⟩ := p.isNeedFrameSplit_frame azimuth
    obtain ⟨_, _, hq⟩ := q.isNeedFrameSplit_frame azimuth
    rw [hp, hq]
    exact h.enable
  · rw [isNeedFrameSplit_lossCounts, isNeedFrameSplit_lossCounts, h.losses]

lemma Alike.turnTo (hc : IsCopy need) (h : Alike p q) (azimuth : UInt16) :
    (p.turnTo need azimuth).2 = (q.turnTo need azimuth).2 ∧
      Alike (p.turnTo need azimuth).1 (q.turnTo need azimuth).1 := by
  refine ⟨(turnTo_congr hc azimuth h.split).1, ?_⟩
  rw [GeneralParser.turnTo, GeneralParser.turnTo, hc.fst_eq, hc.fst_eq]
  exact noteAzimuth_alike (isNeedFrameSplit_alike h)

lemma turnTo_lossCounts (hc : IsCopy need) : (p.turnTo need azimuth).1.lossCounts = p.lossCounts := by
  rw [turnTo, hc.fst_eq, noteAzimuth_lossCounts, isNeedFrameSplit_lossCounts]

lemma turnTo_enable (hc : IsCopy need) :
    (p.turnTo need azimuth).1.enablePacketLossTool = p.enablePacketLossTool := by
  obtain ⟨_, _, h⟩ := p.isNeedFrameSplit_frame azimuth
  obtain ⟨_, _, h'⟩ := (p.isNeedFrameSplit azimuth).1.noteAzimuth_frame azimuth
  rw [turnTo, hc.fst_eq, h', h]

lemma turnTo_lastAzimuth : (p.turnTo need azimuth).1.lastAzimuth = azimuth.toNat := by
  rw [turnTo, noteAzimuth]
  split_ifs with h
  · exact h.symm
  · rfl

lemma turnTo_here (hc : IsCopy need) (h : p.lastAzimuth = azimuth.toNat) :
    (p.turnTo need azimuth).2 = false ∧ (p.turnTo need azimuth).1.lastAzimuth = p.lastAzimuth ∧
      (p.turnTo need azimuth).1.lastLastAzimuth = p.lastLastAzimuth ∧
      (p.turnTo need azimuth).1.rotationFlag = p.rotationFlag := by
  have hlast : p.normalizeFrameStart.lastAzimuth = azimuth.toNat := by
    rw [normalizeFrameStart]
    split_ifs <;> exact h
  have hzero : p.normalizeFrameStart.division azimuth.toNat = 0 := by
    rw [division, hlast]
    split_ifs <;> omega
  have hparted : ¬p.normalizeFrameStart.Parted azimuth.toNat := by
    rintro ⟨-, hfall, hrise, -⟩
    omega
  have hneed : p.isNeedFrameSplit azimuth = (p.normalizeFrameStart, false) := by
    simp only [isNeedFrameSplit, hzero, if_true]
    split_ifs <;> rfl
  have hnote : p.normalizeFrameStart.noteAzimuth azimuth = p.normalizeFrameStart := by
    rw [noteAzimuth, if_pos hlast.symm]
  rw [turnTo, hc.snd_eq hparted, hc.fst_eq, hneed, hnote, normalizeFrameStart]
  split_ifs <;> exact ⟨rfl, rfl, rfl, rfl⟩

lemma countSeqNum_again {seqNum : Option UInt32} (hseq : seqNum ≠ some 0)
    (hp : p.lossCounts = (q.countSeqNum env seqNum).lossCounts)
    (henable : p.enablePacketLossTool = q.enablePacketLossTool) :
    (p.countSeqNum env seqNum).totalPacketCount = p.totalPacketCount ∧
      (p.countSeqNum env seqNum).seqnumLossMessage.totalLossCount = p.seqnumLossMessage.totalLossCount ∧
      (p.countSeqNum env seqNum).seqnumLossMessage.lastSeqnum = p.seqnumLossMessage.lastSeqnum := by
  cases seqNum with
  | none => exact ⟨rfl, rfl, rfl⟩
  | some n =>
    have hn : n ≠ 0 := fun h0 => hseq (congrArg some h0)
    rcases Bool.eq_false_or_eq_true p.enablePacketLossTool with htool | htool
    swap
    · rw [countSeqNum, calPktLoss_disabled env htool]
      exact ⟨rfl, rfl, rfl⟩
    have hq : q.enablePacketLossTool = true := henable.symm.trans htool
    obtain ⟨hcount, hmessage⟩ := Prod.mk.inj hp
    have hlast : p.seqnumLossMessage.lastSeqnum = n := by
      rw [hmessage]
      exact calPktLoss_lastSeqnum env hq
    have hstart : p.seqnumLossMessage.startSeqnum ≠ 0 := by
      rw [hmessage]
      by_cases h0 : q.seqnumLossMessage.startSeqnum = 0
      · exact (calPktLoss_first env hq h0).1.symm ▸ hn
      · exact start_ne_zero env hq h0 hn
    refine ⟨?_, ?_, ?_⟩
    · rw [countSeqNum, calPktLoss_totalPacketCount env htool, hlast, if_neg fun h => UInt32.lt_irrefl n h.1]
    · rw [countSeqNum, calPktLoss_totalLossCount env htool hstart, hlast, UInt32.sub_self, if_neg (by decide)]
    · rw [countSeqNum, calPktLoss_lastSeqnum env htool, hlast]

lemma countSeqNum_split {seqNum : Option UInt32} : (p.countSeqNum env seqNum).splitState = p.splitState ∧
    (p.countSeqNum env seqNum).rotationFlag = p.rotationFlag ∧
    (p.countSeqNum env seqNum).enablePacketLossTool = p.enablePacketLossTool := by
  cases seqNum with
  | none => exact ⟨rfl, rfl, rfl⟩
  | some n =>
    obtain ⟨_, _, _, h⟩ := p.calPktLoss_frame env n
    rw [countSeqNum, h]
    exact ⟨rfl, rfl, rfl⟩

end GeneralParser

open GeneralParser

section Turned

variable {env : Environment} {packet : UdpPacket} {Pt : Type} {frame : LidarDecodedFrame Pt}

lemma Udp61Parser.decodePacket_turned {p : GeneralParser} (hret : (decodePacket env packet p frame).val.ret = 0) :
    ∃ g : GeneralParser, Alike g (p.countSeqNum env
        (some (readU32 env packet ((V61.headerAt env packet).tailOffset + 24)).val)) ∧
      (decodePacket env packet p frame).val.frame.scanComplete =
        (g.turnTo isNeedFrameSplit (splitAzimuth env packet (V61.headerAt env packet))).2 ∧
      (decodePacket env packet p frame).val.parser =
        (g.turnTo isNeedFrameSplit (splitAzimuth env packet (V61.headerAt env packet))).1 := by
  rw [decodePacket_val, if_pos (decodePacket_ret.mp hret)]
  simp only [decodeBody, val_bind, val_pure, BlockWalk.BlockReader.walk_val, finishBlocks_eq]
  exact ⟨_, (calPktTimeLoss_alike env _).sped _ _, rfl, rfl⟩

def Udp14Parser.seqNum (env : Environment) (packet : UdpPacket) (h : V14.Header) : Option UInt32 :=
  if h.hasSeqNum then some (readU32 env packet h.seqNumOffset).val else none

lemma Udp14Parser.countSeqNum_eq (h : V14.Header) (p : GeneralParser) :
    (Udp14Parser.countSeqNum env packet h p).val = p.countSeqNum env (seqNum env packet h) := by
  rw [countSeqNum, seqNum]
  split_ifs <;> rfl

lemma Udp14Parser.updateMonitorInfo_alike (h : V14.Header) (p : GeneralParser) :
    Alike (updateMonitorInfo env packet h p).val p := by
  rw [updateMonitorInfo]
  split <;> exact ⟨rfl, rfl, rfl, rfl⟩

lemma Udp14Parser.decodePacket_turned {p : Udp14Parser} (hret : (p.decodePacket env packet frame).val.ret = 0) :
    ∃ g : GeneralParser, Alike g (p.toGeneralParser.countSeqNum env (seqNum env packet (V14.headerAt env packet))) ∧
      (p.decodePacket env packet frame).val.frame.scanComplete =
        (g.turnTo isNeedFrameSplit (splitAzimuth env packet (V14.headerAt env packet))).2 ∧
      (p.decodePacket env packet frame).val.parser.toGeneralParser =
        (g.turnTo isNeedFrameSplit (splitAzimuth env packet (V14.headerAt env packet))).1 := by
  rw [decodePacket_val, if_pos (decodePacket_ret.mp hret), ← countSeqNum_eq]
  simp only [decodeBody, val_bind, val_pure, BlockWalk.BlockReader.walk_val, finishBlocks_eq]
  exact ⟨_, (updateMonitorInfo_alike _ _).trans ((calPktTimeLoss_alike env _).sped _ _), rfl, rfl⟩

lemma Udp31Parser.decodePacket_ret {p : GeneralParser} : (decodePacket env packet p frame).val.ret = 0 ↔
    p.getCorrectionFile = true ∧ Delimited env packet := by
  rw [decodePacket]
  exact afterTests_ret rfl

lemma Udp31Parser.decodePacket_turned {p : GeneralParser} (hret : (decodePacket env packet p frame).val.ret = 0) :
    let l := V31.layout (V31.readHeader env packet).val
    ∃ g : GeneralParser, Alike g (p.countSeqNum env (some (readU32 env packet (l.endOffset + 24)).val)) ∧
      (decodePacket env packet p frame).val.frame.scanComplete =
        (g.turnTo isNeedFrameSplit (bodyAzimuth env packet l)).2 ∧
      (decodePacket env packet p frame).val.parser = (g.turnTo isNeedFrameSplit (bodyAzimuth env packet l)).1 := by
  intro l
  rw [decodePacket_accepted hret]
  simp only [decodeBody, val_bind, val_pure, mechanicalWalk_azimuth]
  exact ⟨_, (calPktTimeLoss_alike env _).sped _ _, rfl, rfl⟩

def Udp32Parser.seqNum (env : Environment) (packet : UdpPacket) (h : BodyHeader) : Option UInt32 :=
  if V32.hasConfidenceLevel h ∧ V32.hasSeqNum h
  then some (readU32 env packet (V32.tailOffset h + V32.sizeofTail)).val else none

lemma Udp32Parser.countPacket_alike (h : BodyHeader) (p : GeneralParser) :
    Alike (if V32.hasConfidenceLevel h then countPacket env packet h p else pure p : Logged DecodeEvent _).val
      (p.countSeqNum env (seqNum env packet h)) := by
  rw [seqNum]
  by_cases hconf : V32.hasConfidenceLevel h = true
  · by_cases hseq : V32.hasSeqNum h = true
    · rw [if_pos hconf, if_pos ⟨hconf, hseq⟩]
      simp only [countPacket, hseq, if_true, val_bind, val_pure]
      exact calPktTimeLoss_alike env _
    · rw [if_pos hconf, if_neg fun h => hseq h.2]
      simp only [countPacket, hseq, Bool.false_eq_true, if_false, val_bind, val_pure]
      exact calPktTimeLoss_alike env _
  · rw [if_neg hconf, if_neg fun h => hconf h.1]
    exact ⟨rfl, rfl, rfl, rfl⟩

lemma Udp32Parser.decodePacket_ret {p : Udp32Parser} : (decodePacket env packet p frame).val.ret = 0 ↔
    p.getCorrectionFile = true ∧ Delimited env packet := by
  rw [decodePacket]
  exact afterTests_ret rfl

lemma Udp32Parser.decodePacket_turned {p : Udp32Parser} (hret : (decodePacket env packet p frame).val.ret = 0) :
    let h := (V32.readHeader env packet).val
    ∃ g : GeneralParser, Alike g (p.toGeneralParser.countSeqNum env (seqNum env packet h)) ∧
      (decodePacket env packet p frame).val.frame.scanComplete =
        (g.turnTo isNeedFrameSplit (bodyAzimuth env packet (V32.layout h))).2 ∧
      (decodePacket env packet p frame).val.parser.toGeneralParser =
        (g.turnTo isNeedFrameSplit (bodyAzimuth env packet (V32.layout h))).1 := by
  intro h
  rw [decodePacket_accepted hret]
  simp only [decodeBody, val_bind, val_pure, mechanicalWalk_azimuth]
  refine ⟨_, Alike.trans ?_ (countPacket_alike h p.toGeneralParser), rfl, rfl⟩
  by_cases hconf : V32.hasConfidenceLevel h = true
  · rw [if_pos hconf]
    exact ⟨rfl, rfl, rfl, rfl⟩
  · rw [if_neg hconf]
    exact ⟨rfl, rfl, rfl, rfl⟩

lemma UdpP40Parser.decodePacket_ret {p : GeneralParser} : (decodePacket env packet p frame).val.ret = 0 ↔
    p.getCorrectionFile = true ∧ byteAt env packet 0 = 0xFF ∧ byteAt env packet 1 = 0xEE := by
  rw [decodePacket_val]
  split_ifs with h
  · exact iff_of_true rfl h
  · exact iff_of_false (by decide : ¬(-1 : ℤ) = 0) h

lemma UdpP40Parser.decodePacket_turned {p : GeneralParser} (hret : (decodePacket env packet p frame).val.ret = 0) :
    ∃ g : GeneralParser, Alike g (p.countSeqNum env
        (some (readU32 env packet (P40.layout.endOffset + P40.sizeofTail)).val)) ∧
      (decodePacket env packet p frame).val.frame.scanComplete =
        (g.turnTo isNeedFrameSplit (bodyAzimuth env packet P40.layout)).2 ∧
      (decodePacket env packet p frame).val.parser =
        (g.turnTo isNeedFrameSplit (bodyAzimuth env packet P40.layout)).1 := by
  rw [decodePacket_accepted hret]
  simp only [decodeBody, val_bind, val_pure, mechanicalWalk_azimuth]
  exact ⟨_, (calPktTimeLoss_alike env _).sped _ _, rfl, rfl⟩

lemma UdpP64Parser.decodePacket_ret {p : GeneralParser} : (decodePacket env packet p frame).val.ret = 0 ↔
    p.getCorrectionFile = true ∧ Delimited env packet := by
  rw [decodePacket]
  exact afterTests_ret rfl

lemma UdpP64Parser.decodePacket_turned {p : GeneralParser} (hret : (decodePacket env packet p frame).val.ret = 0) :
    let l := P64.layout (P64.readHeader env packet).val
    ∃ g : GeneralParser, Alike g (p.countSeqNum env (some (readU32 env packet (l.endOffset + P64.sizeofTail)).val)) ∧
      (decodePacket env packet p frame).val.frame.scanComplete =
        (g.turnTo isNeedFrameSplit (bodyAzimuth env packet l)).2 ∧
      (decodePacket env packet p frame).val.parser = (g.turnTo isNeedFrameSplit (bodyAzimuth env packet l)).1 := by
  intro l
  rw [decodePacket_accepted hret]
  simp only [decodeBody, val_bind, val_pure, mechanicalWalk_azimuth]
  exact ⟨_, (calPktTimeLoss_alike env _).sped _ _, rfl, rfl⟩

end Turned

/-- A parser that counts the sequence number of each accepted packet and splits frames by the azimuth of its last
block. -/
structure CountingParser (env : Environment) (σ Pt Fault : Type) extends Parser σ Pt Fault where
  general : σ → GeneralParser
  azimuth : UdpPacket → UInt16
  seqNum : UdpPacket → Option UInt32
  isNeedFrameSplit : UInt16 → GeneralParser → GeneralParser × Bool
  copy : IsCopy isNeedFrameSplit
  accepts : UdpPacket → Prop
  ret : ∀ p frame packet,
    (decodePacket p frame packet).val.ret = 0 ↔ (general p).getCorrectionFile = true ∧ accepts packet
  keeps : ∀ p frame packet,
    (general (decodePacket p frame packet).val.parser).toCalibration = (general p).toCalibration
  counts : ∀ p frame packet,
    let d := (decodePacket p frame packet).val
    d.ret = 0 → ∃ g : GeneralParser, Alike g ((general p).countSeqNum env (seqNum packet)) ∧
      d.frame.scanComplete = (g.turnTo isNeedFrameSplit (azimuth packet)).2 ∧
      general d.parser = (g.turnTo isNeedFrameSplit (azimuth packet)).1

section Parsers

variable (env : Environment) (Pt Fault : Type) [Point Pt]

def udp61Counting : CountingParser env GeneralParser Pt Fault where
  toParser := udp61 env Pt Fault
  general p := p
  azimuth packet := Udp61Parser.splitAzimuth env packet (V61.headerAt env packet)
  seqNum packet := some (readU32 env packet ((V61.headerAt env packet).tailOffset + 24)).val
  isNeedFrameSplit := Udp61Parser.isNeedFrameSplit
  copy := isCopy_self
  accepts packet := Delimited env packet
  ret _ _ _ := Udp61Parser.decodePacket_ret
  keeps _ _ _ := Udp61Parser.decodePacket_calibration
  counts _ _ _ := Udp61Parser.decodePacket_turned

def udp14Counting : CountingParser env Udp14Parser Pt Fault where
  toParser := udp14 env Pt Fault
  general p := p.toGeneralParser
  azimuth packet := Udp14Parser.splitAzimuth env packet (V14.headerAt env packet)
  seqNum packet := Udp14Parser.seqNum env packet (V14.headerAt env packet)
  isNeedFrameSplit := Udp14Parser.isNeedFrameSplit
  copy := isCopy_self
  accepts packet := Delimited env packet
  ret _ _ _ := Udp14Parser.decodePacket_ret
  keeps _ _ _ := Udp14Parser.decodePacket_calibration
  counts _ _ _ := Udp14Parser.decodePacket_turned

def udp31Counting : CountingParser env GeneralParser Pt Fault where
  toParser := udp31 env Pt Fault
  general p := p
  azimuth packet := bodyAzimuth env packet (V31.layout (V31.readHeader env packet).val)
  seqNum packet := some (readU32 env packet ((V31.layout (V31.readHeader env packet).val).endOffset + 24)).val
  isNeedFrameSplit := Udp31Parser.isNeedFrameSplit
  copy := isCopy_uncast
  accepts packet := Delimited env packet
  ret _ _ _ := Udp31Parser.decodePacket_ret
  keeps _ _ _ := Udp31Parser.decodePacket_calibration
  counts _ _ _ := Udp31Parser.decodePacket_turned

def udp32Counting : CountingParser env Udp32Parser Pt Fault where
  toParser := udp32 env Pt Fault
  general p := p.toGeneralParser
  azimuth packet := bodyAzimuth env packet (V32.layout (V32.readHeader env packet).val)
  seqNum packet := Udp32Parser.seqNum env packet (V32.readHeader env packet).val
  isNeedFrameSplit := Udp32Parser.isNeedFrameSplit
  copy := isCopy_uncast
  accepts packet := Delimited env packet
  ret _ _ _ := Udp32Parser.decodePacket_ret
  keeps _ _ _ := Udp32Parser.decodePacket_calibration
  counts _ _ _ := Udp32Parser.decodePacket_turned

def udpP40Counting : CountingParser env GeneralParser Pt Fault where
  toParser := udpP40 env Pt Fault
  general p := p
  azimuth packet := bodyAzimuth env packet P40.layout
  seqNum packet := some (readU32 env packet (P40.layout.endOffset + P40.sizeofTail)).val
  isNeedFrameSplit := UdpP40Parser.isNeedFrameSplit
  copy := isCopy_uncast
  accepts packet := byteAt env packet 0 = 0xFF ∧ byteAt env packet 1 = 0xEE
  ret _ _ _ := UdpP40Parser.decodePacket_ret
  keeps _ _ _ := UdpP40Parser.decodePacket_calibration
  counts _ _ _ := UdpP40Parser.decodePacket_turned

def udpP64Counting : CountingParser env GeneralParser Pt Fault where
  toParser := udpP64 env Pt Fault
  general p := p
  azimuth packet := bodyAzimuth env packet (P64.layout (P64.readHeader env packet).val)
  seqNum packet := some (readU32 env packet ((P64.layout (P64.readHeader env packet).val).endOffset +
    P64.sizeofTail)).val
  isNeedFrameSplit := UdpP64Parser.isNeedFrameSplit
  copy := isCopy_self
  accepts packet := Delimited env packet
  ret _ _ _ := UdpP64Parser.decodePacket_ret
  keeps _ _ _ := UdpP64Parser.decodePacket_calibration
  counts _ _ _ := UdpP64Parser.decodePacket_turned

end Parsers

namespace CountingParser

variable {env : Environment} {σ Pt Fault : Type}

def mechanical (F : CountingParser env σ Pt Fault) : MechanicalParser σ Pt Fault where
  toParser := F.toParser
  general := F.general
  azimuth := F.azimuth
  isNeedFrameSplit := F.isNeedFrameSplit
  copy := F.copy
  turns p frame packet := by
    intro d hret
    obtain ⟨g, halike, hscan, hparser⟩ := F.counts p frame packet hret
    obtain ⟨hcut, hsplit⟩ := turnTo_congr F.copy (F.azimuth packet) (halike.split.trans (countSeqNum_split env).1)
    exact ⟨hscan.trans hcut, (congrArg _ hparser).trans hsplit⟩

/-- A packet that is decoded once more, as the first packet of the next frame, does not end that frame and is not
counted again. -/
theorem decodePacket_again (F : CountingParser env σ Pt Fault) (p : σ) (frame frame' : LidarDecodedFrame Pt)
    (packet : UdpPacket) (hret : (F.decodePacket p frame packet).val.ret = 0) (hseq : F.seqNum packet ≠ some 0) :
    let first := (F.decodePacket p frame packet).val
    let second := (F.decodePacket first.parser frame' packet).val
    second.ret = 0 ∧ second.frame.scanComplete = false ∧
      (F.general second.parser).lastAzimuth = (F.general first.parser).lastAzimuth ∧
      (F.general second.parser).lastLastAzimuth = (F.general first.parser).lastLastAzimuth ∧
      (F.general second.parser).rotationFlag = (F.general first.parser).rotationFlag ∧
      (F.general second.parser).seqnumLossMessage.totalLossCount =
        (F.general first.parser).seqnumLossMessage.totalLossCount ∧
      (F.general second.parser).seqnumLossMessage.lastSeqnum =
        (F.general first.parser).seqnumLossMessage.lastSeqnum ∧
      (F.general second.parser).totalPacketCount = (F.general first.parser).totalPacketCount := by
  intro first second
  obtain ⟨hget, haccepts⟩ := (F.ret p frame packet).mp hret
  have hret' : second.ret = 0 := by
    refine (F.ret first.parser frame' packet).mpr ⟨?_, haccepts⟩
    rwa [F.keeps p frame packet]
  obtain ⟨g, hg, -, hparser⟩ := F.counts p frame packet hret
  obtain ⟨g', hg', hscan', hparser'⟩ := F.counts first.parser frame' packet hret'
  -- the totals after the first call are those of the number just counted
  have hlosses : (F.general first.parser).lossCounts =
      ((F.general p).countSeqNum env (F.seqNum packet)).lossCounts := by
    rw [hparser, turnTo_lossCounts F.copy, hg.losses]
  have henable : (F.general first.parser).enablePacketLossTool = (F.general p).enablePacketLossTool := by
    rw [hparser, turnTo_enable F.copy, hg.enable, (countSeqNum_split env).2.2]
  obtain ⟨htotal, hloss, hlast⟩ := countSeqNum_again env hseq hlosses henable
  have hstate : g'.splitState = (F.general first.parser).splitState := hg'.split.trans (countSeqNum_split env).1
  simp only [splitState, Prod.mk.injEq] at hstate
  have hhere : g'.lastAzimuth = (F.azimuth packet).toNat := by
    rw [hstate.2.2, hparser, turnTo_lastAzimuth]
  obtain ⟨hcut, hazimuth, hbefore, hflag⟩ := turnTo_here F.copy hhere
  have hkept : (F.general second.parser).lossCounts =
      ((F.general first.parser).countSeqNum env (F.seqNum packet)).lossCounts := by
    rw [hparser', turnTo_lossCounts F.copy, hg'.losses]
  obtain ⟨hcount', hmessage'⟩ := Prod.mk.inj hkept
  refine ⟨hret', hscan'.trans hcut, ?_, ?_, ?_, ?_, ?_, ?_⟩
  · rw [hparser', hazimuth, hstate.2.2]
  · rw [hparser', hbefore, hstate.2.1]
  · rw [hparser', hflag, hg'.flag, (countSeqNum_split env).2.1]
  · rw [hmessage', hloss]
  · rw [hmessage', hlast]
  · rw [hcount', htotal]

def numberedBlock : UdpPacket :=
  UdpPacket.ofBytes ([0xEE, 0xFF, 6, 1, 0, 0, 1, 1, 0, 4, 0, 0, 200, 0, 0, 0, 0, 0] ++
    List.replicate 24 0 ++ [7, 0, 0, 0])

def counted : GeneralParser :=
  { (default : GeneralParser) with
    getCorrectionFile := true
    enablePacketLossTool := true }

theorem decodePacket_again_udp61 :
    let F := udp61Counting default LidarPointXYZICRT Unit
    let first := (F.decodePacket counted default numberedBlock).val
    let second := (F.decodePacket first.parser default numberedBlock).val
    second.frame.scanComplete = false ∧
      (F.general second.parser).seqnumLossMessage.lastSeqnum =
        (F.general first.parser).seqnumLossMessage.lastSeqnum := by
  have hseq : (udp61Counting default LidarPointXYZICRT Unit).seqNum numberedBlock ≠ some 0 := by decide +kernel
  obtain ⟨-, hscan, -, -, -, -, hlast, -⟩ :=
    decodePacket_again (udp61Counting default LidarPointXYZICRT Unit) counted default default numberedBlock
      (Udp61Parser.decodePacket_ret.mpr ⟨rfl, rfl, rfl⟩) hseq
  exact ⟨hscan, hlast⟩

end CountingParser

end HesaiSdk.Parsing
