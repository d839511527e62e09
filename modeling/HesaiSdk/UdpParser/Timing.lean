import HesaiSdk.UdpParser.Cutting
import HesaiSdk.UdpParser.Dispatch
import HesaiSdk.UdpParser.Redecoding

/-! The packet time loss tool in the parsers. -/

namespace HesaiSdk.Parsing

open Library Library.BlockWalk Lidar UdpProtocol

namespace GeneralParser

variable {env : Environment} {p q g : GeneralParser} {t : UInt64}

def timeLosses (p : GeneralParser) : Bool × PacketTimeLossMessage := (p.enablePacketTimelossTool, p.timeLossMessage)

@[simp] lemma calPktLoss_timeLosses (env : Environment) (p : GeneralParser) (n : UInt32) :
    (p.calPktLoss env n).timeLosses = p.timeLosses := by
  obtain ⟨_, _, _, h⟩ := p.calPktLoss_frame env n
  rw [h]
  rfl

@[simp] lemma isNeedFrameSplit_timeLosses (p : GeneralParser) (azimuth : UInt16) :
    (p.isNeedFrameSplit azimuth).1.timeLosses = p.timeLosses := by
  obtain ⟨_, _, h⟩ := p.isNeedFrameSplit_frame azimuth
  rw [h]
  rfl

@[simp] lemma noteAzimuth_timeLosses (p : GeneralParser) (azimuth : UInt16) :
    (p.noteAzimuth azimuth).timeLosses = p.timeLosses := by
  obtain ⟨_, _, h⟩ := p.noteAzimuth_frame azimuth
  rw [h]
  rfl

lemma turnTo_timeLosses {need : UInt16 → GeneralParser → GeneralParser × Bool} (hc : IsCopy need) (azimuth : UInt16) :
    (p.turnTo need azimuth).1.timeLosses = p.timeLosses := by
  rw [turnTo, hc.fst_eq, noteAzimuth_timeLosses, isNeedFrameSplit_timeLosses]

/-- `q` is `p` after at most one call of `CalPktTimeLoss` for a packet of time `t`. -/
def TimedBy (env : Environment) (t : UInt64) (p q : GeneralParser) : Prop :=
  q.timeLosses = p.timeLosses ∨
    ∃ g : GeneralParser, g.timeLosses = p.timeLosses ∧ q.timeLosses = (g.calPktTimeLoss env t).timeLosses

lemma timedBy_self : TimedBy env t p p := Or.inl rfl

lemma TimedBy.of_calPktTimeLoss (hg : g.timeLosses = p.timeLosses)
    (hq : q.timeLosses = (g.calPktTimeLoss env t).timeLosses) : TimedBy env t p q := Or.inr ⟨g, hg, hq⟩

end GeneralParser

open GeneralParser

/-- `cuts` is the test by which `DecodePacket` ends the frame. -/
structure TimedParser (env : Environment) (σ Pt Fault : Type) extends Parser σ Pt Fault where
  general : σ → GeneralParser
  timestamp : UdpPacket → UInt64
  cuts : σ → UdpPacket → Bool
  completes : ∀ p frame packet,
    let d := (decodePacket p frame packet).val
    d.ret = 0 → d.frame.scanComplete = cuts p packet
  timed : ∀ p frame packet, TimedBy env (timestamp packet) (general p) (general (decodePacket p frame packet).val.parser)

section Mechanical

variable {env : Environment} {packet : UdpPacket} {σ Pt Fault : Type} {frame : LidarDecodedFrame Pt}

def CountingParser.timed (F : CountingParser env σ Pt Fault) (timestamp : UdpPacket → UInt64)
    (losses : ∀ p frame packet,
      TimedBy env (timestamp packet) (F.general p) (F.general (F.decodePacket p frame packet).val.parser)) :
    TimedParser env σ Pt Fault where
  toParser := F.toParser
  general := F.general
  timestamp := timestamp
  cuts p packet := ((F.general p).turnTo F.isNeedFrameSplit (F.azimuth packet)).2
  completes p frame packet hret := (F.mechanical.turns p frame packet hret).1
  timed := losses

lemma Udp61Parser.decodePacket_timed {p : GeneralParser} :
    TimedBy env (V61.getMicroLidarTime env packet (V61.headerAt env packet).tailOffset).val p
      (decodePacket env packet p frame).val.parser := by
  rw [decodePacket_val]
  split_ifs
  · refine .of_calPktTimeLoss (calPktLoss_timeLosses env p
      (readU32 env packet ((V61.headerAt env packet).tailOffset + 24)).val) ?_
    simp only [decodeBody, val_bind, val_pure]
    exact turnTo_timeLosses isCopy_self _
  · exact timedBy_self

lemma Udp14Parser.countSeqNum_timeLosses (env : Environment) (packet : UdpPacket) (h : V14.Header)
    (g : GeneralParser) : (countSeqNum env packet h g).val.timeLosses = g.timeLosses := by
  rw [countSeqNum]
  split
  · exact calPktLoss_timeLosses env g _
  · rfl

lemma Udp14Parser.updateMonitorInfo_timeLosses (env : Environment) (packet : UdpPacket) (h : V14.Header)
    (g : GeneralParser) : (updateMonitorInfo env packet h g).val.timeLosses = g.timeLosses := by
  rw [updateMonitorInfo]
  split <;> rfl

lemma Udp14Parser.decodePacket_timed {p : Udp14Parser} :
    TimedBy env (V14.getMicroLidarTime env packet (V14.headerAt env packet).tailOffset).val p.toGeneralParser
      (p.decodePacket env packet frame).val.parser.toGeneralParser := by
  rw [decodePacket_val]
  split_ifs
  · refine .of_calPktTimeLoss (countSeqNum_timeLosses env packet (V14.headerAt env packet) p.toGeneralParser) ?_
    simp only [decodeBody, val_bind, val_pure]
    exact (turnTo_timeLosses isCopy_self _).trans (updateMonitorInfo_timeLosses _ _ _ _)
  · exact timedBy_self

lemma Udp31Parser.decodePacket_timed {p : GeneralParser} :
    TimedBy env (V31.getMicroLidarTime env packet (V31.layout (V31.readHeader env packet).val).endOffset).val p
      (decodePacket env packet p frame).val.parser := by
  rw [decodePacket, afterTests_val]
  split_ifs
  · refine .of_calPktTimeLoss (calPktLoss_timeLosses env p
      (readU32 env packet ((V31.layout (V31.readHeader env packet).val).endOffset + 24)).val) ?_
    simp only [decodeBody, val_bind, val_pure]
    exact turnTo_timeLosses isCopy_uncast _
  · exact timedBy_self

variable (env packet) in
/-- Without the confidence level there is no call. -/
lemma Udp32Parser.countPacket_timed (h : BodyHeader) (g : GeneralParser) :
    TimedBy env (V32.getMicroLidarTime env packet (V32.tailOffset h)).val g
      (if V32.hasConfidenceLevel h then countPacket env packet h g else pure g : Logged DecodeEvent _).val := by
  split_ifs
  · simp only [countPacket, val_bind, val_pure]
    refine .of_calPktTimeLoss ?_ rfl
    split_ifs
    · exact calPktLoss_timeLosses env g _
    · rfl
  · exact timedBy_self

variable (env packet frame) in
lemma Udp32Parser.decodeBody_timeLosses (h : BodyHeader) (p : Udp32Parser) :
    (decodeBody env packet p frame h).val.parser.timeLosses = (if V32.hasConfidenceLevel h
      then countPacket env packet h p.toGeneralParser
      else pure p.toGeneralParser : Logged DecodeEvent _).val.timeLosses := by
  simp only [decodeBody, val_bind, val_pure, mechanicalWalk_azimuth]
  generalize (if V32.hasConfidenceLevel h = true then countPacket env packet h p.toGeneralParser
    else pure p.toGeneralParser : Logged DecodeEvent GeneralParser).val = timed
  refine (turnTo_timeLosses isCopy_uncast _).trans ?_
  split_ifs <;> rfl

lemma Udp32Parser.decodePacket_timed {p : Udp32Parser} :
    TimedBy env (V32.getMicroLidarTime env packet (V32.tailOffset (V32.readHeader env packet).val)).val
      p.toGeneralParser (decodePacket env packet p frame).val.parser.toGeneralParser := by
  rw [decodePacket, afterTests_val]
  split_ifs
  · have hcount := countPacket_timed env packet (V32.readHeader env packet).val p.toGeneralParser
    rw [TimedBy, ← decodeBody_timeLosses env packet frame] at hcount
    rw [val_bind]
    exact hcount
  · exact timedBy_self

lemma UdpP40Parser.decodePacket_timed {p : GeneralParser} :
    TimedBy env (P40.getMicroLidarTime env packet P40.layout.endOffset).val p
      (decodePacket env packet p frame).val.parser := by
  rw [decodePacket_val]
  split_ifs
  · refine .of_calPktTimeLoss (calPktLoss_timeLosses env p
      (readU32 env packet (P40.layout.endOffset + P40.sizeofTail)).val) ?_
    simp only [decodeBody, val_bind, val_pure]
    exact turnTo_timeLosses isCopy_uncast _
  · exact timedBy_self

lemma UdpP64Parser.decodePacket_timed {p : GeneralParser} :
    TimedBy env (P64.getMicroLidarTime env packet (P64.layout (P64.readHeader env packet).val).endOffset).val p
      (decodePacket env packet p frame).val.parser := by
  rw [decodePacket, afterTests_val]
  split_ifs
  · refine .of_calPktTimeLoss (calPktLoss_timeLosses env p
      (readU32 env packet ((P64.layout (P64.readHeader env packet).val).endOffset + P64.sizeofTail)).val) ?_
    simp only [decodeBody, val_bind, val_pure]
    exact turnTo_timeLosses isCopy_self _
  · exact timedBy_self

end Mechanical

section Et

variable {env : Environment} {packet : UdpPacket} {Corrections Pt Fault : Type} {p : EtParser Corrections}
  {frame : LidarDecodedFrame Pt} {message : UdpPacket → EtMessage}

variable (env packet) in
lemma EtParser.countSeqNum_timeLosses (m : EtMessage) (g : GeneralParser) :
    (countSeqNum env packet m g).val.timeLosses = g.timeLosses := by
  rw [countSeqNum]
  split
  · exact calPktLoss_timeLosses env g _
  · rfl

lemma EtParser.decodeMessage_timed {m : EtMessage}
    {walk : (ℕ → PointDecodeData) → Logged DecodeEvent (ℕ → PointDecodeData)} :
    TimedBy env (m.getMicroLidarTime env packet).val p.toGeneralParser
      (decodeMessage env packet m p frame walk).val.parser.toGeneralParser := by
  refine .of_calPktTimeLoss (countSeqNum_timeLosses env packet m p.toGeneralParser) ?_
  simp only [decodeMessage, val_bind, val_pure]
  rfl

def EtParser.timed (P : Parser (EtParser Corrections) Pt Fault) (h : Guards env message P) :
    TimedParser env (EtParser Corrections) Pt Fault where
  toParser := P
  general p := p.toGeneralParser
  timestamp packet := ((message packet).getMicroLidarTime env packet).val
  cuts p packet := p.useAngle && p.isNeedFrameSplit (frameIdOf env message packet)
  completes p frame packet := by
    intro d hret
    obtain ⟨walk, body, hdecode, hbody⟩ := h.decodes p frame packet
    have hd : d = (decodeMessage env packet (message packet) p frame walk).val := by
      rw [← hbody]
      simp only [d, hdecode] at hret ⊢
      rw [guarded_val] at hret ⊢
      split_ifs at hret ⊢
      · rfl
      · exact absurd (show (-1 : ℤ) = 0 from hret) (by decide)
    have hscan : (decodeMessage env packet (message packet) p frame walk).val.frame.scanComplete =
        ((decodeMessage env packet (message packet) p frame walk).val.parser.useAngle &&
          p.isNeedFrameSplit (frameIdOf env message packet)) := rfl
    rw [hd, hscan, decodeMessage_useAngle]
  timed p frame packet := by
    obtain ⟨walk, body, hdecode, hbody⟩ := h.decodes p frame packet
    rw [hdecode, guarded_val]
    split_ifs
    · rw [hbody]
      exact decodeMessage_timed
    · exact timedBy_self

end Et

section Columns

variable {env : Environment} {packet : UdpPacket} {Pt : Type} {frame : LidarDecodedFrame Pt}

variable (env packet) in
lemma Udp43Parser.countSeqNum_timeLosses (h : V43.Header) (g : GeneralParser) :
    (countSeqNum env packet h g).val.timeLosses = g.timeLosses := by
  rw [countSeqNum]
  split
  · exact calPktLoss_timeLosses env g _
  · rfl

lemma Udp43Parser.decodePacket_timed {p : Udp43Parser} :
    TimedBy env (V43.getMicroLidarTime env packet (V43.headerAt env packet).tailOffset).val p.toGeneralParser
      (p.decodePacket env packet frame).val.parser.toGeneralParser := by
  by_cases he : EndsFrame packet p
  · rw [decodePacket_of_endsFrame _ _ _ _ he]
    exact Or.inl rfl
  · rw [decodePacket_val _ _ _ _ he]
    split_ifs
    · refine .of_calPktTimeLoss (countSeqNum_timeLosses env packet (V43.headerAt env packet) p.toGeneralParser) ?_
      simp only [decodeBody, val_bind, val_pure]
      rfl
    · exact timedBy_self

variable (env packet) in
/-- The blocks are looked at one after the other. -/
def Udp43Parser.blocksCut (p : Udp43Parser) : Bool :=
  let h := V43.headerAt env packet
  ((bodyReader env packet p.toGeneralParser).finishBlocks h.getLaserNum V43.Header.bodyOffset
    ⟨p.useAngle, p.lastAzimuth, false⟩ h.getBlockNum).scanComplete

variable (env packet) in
def Udp43Parser.cuts (p : Udp43Parser) : Bool :=
  if p.getCorrectionFile && packet.isTimeout && p.nearFieldEnd then true else p.blocksCut env packet

lemma Udp43Parser.finishBlocks_congr (g g' : GeneralParser) (width o : ℕ) (a : FrameCut) (n : ℕ) :
    (bodyReader env packet g).finishBlocks width o a n = (bodyReader env packet g').finishBlocks width o a n := by
  induction n with
  | zero => rfl
  | succ n ih =>
    rw [BlockReader.finishBlocks, BlockReader.finishBlocks, ih]
    rfl

lemma Udp43Parser.decodePacket_completes {p : Udp43Parser} (hret : (p.decodePacket env packet frame).val.ret = 0) :
    (p.decodePacket env packet frame).val.frame.scanComplete = p.cuts env packet := by
  by_cases he : EndsFrame packet p
  · rw [decodePacket_of_endsFrame _ _ _ _ he, cuts, he.1, he.2.1, he.2.2]
    rfl
  · have hnot : ¬(p.getCorrectionFile && packet.isTimeout && p.nearFieldEnd) = true := by
      rw [Bool.and_eq_true, Bool.and_eq_true, and_assoc]
      exact he
    obtain ⟨hangle, hlast⟩ := countSeqNum_cut env packet (V43.headerAt env packet) p.toGeneralParser
    obtain ⟨hangle', hlast'⟩ := calPktTimeLoss_cut env
      (countSeqNum env packet (V43.headerAt env packet) p.toGeneralParser).val
      (V43.getMicroLidarTime env packet (V43.headerAt env packet).tailOffset).val
    rw [decodePacket_val _ _ _ _ he, if_pos ((decodePacket_ret he).mp hret), cuts, if_neg hnot, blocksCut]
    simp only [decodeBody, val_bind, val_pure, BlockReader.walk_val, GeneralParser.tick, hangle', hangle, hlast', hlast]
    exact congrArg FrameCut.scanComplete (finishBlocks_congr _ _ _ _ _ _)

variable (env packet) in
lemma Udp47Parser.countSeqNum_timeLosses (h : V47.Header) (g : GeneralParser) :
    (countSeqNum env packet h g).val.timeLosses = g.timeLosses := by
  rw [countSeqNum]
  split
  · exact calPktLoss_timeLosses env g _
  · rfl

lemma Udp47Parser.decodePacket_timed {p : Udp47Parser} :
    TimedBy env (V47.getMicroLidarTime env packet (V47.headerAt env packet).tailOffset).val p.toGeneralParser
      (p.decodePacket env packet frame).val.parser.toGeneralParser := by
  rw [decodePacket_val]
  split_ifs
  · refine .of_calPktTimeLoss (countSeqNum_timeLosses env packet (V47.headerAt env packet) p.toGeneralParser) ?_
    simp only [decodeBody, val_bind, val_pure]
    rfl
  · exact timedBy_self

variable (env packet) in
def Udp47Parser.cuts (p : Udp47Parser) : Bool :=
  (V47.headerAt env packet).getBlockNum != 0 && (p.useAngle && p.isNeedFrameSplit (parityAt env packet))

lemma Udp47Parser.decodePacket_completes {p : Udp47Parser} (hret : (p.decodePacket env packet frame).val.ret = 0) :
    (p.decodePacket env packet frame).val.frame.scanComplete = p.cuts env packet := by
  have htimed := timed_useAngle env packet p (V47.headerAt env packet)
  have haccepted : p.getCorrectionFile = true ∧ Delimited env packet := by
    rw [decodePacket_val] at hret
    by_contra hnot
    rw [if_neg hnot] at hret
    exact absurd hret (by decide : ¬(-1 : ℤ) = 0)
  rw [decodePacket_val, if_pos haccepted, cuts]
  simp only [decodeBody, val_bind, val_pure, BlockReader.walk_val, GeneralParser.tick, htimed]
  cases (V47.headerAt env packet).getBlockNum with
  | zero => rfl
  | succ n => exact (finishBlocks_parity p.useAngle).2.2

lemma Udp72Parser.decodePacket_timed {p : Udp72Parser} :
    TimedBy env (V72.getMicroLidarTime env packet (V72.headerAt env packet).tailOffset).val p.toGeneralParser
      (p.decodePacket env packet frame).val.parser.toGeneralParser := by
  rw [decodePacket_val]
  split_ifs
  · refine .of_calPktTimeLoss (calPktLoss_timeLosses env p.toGeneralParser
      (V72.readSequenceNum env packet (V72.headerAt env packet).tailOffset).val) ?_
    simp only [decodeBody, val_bind, val_pure]
    rfl
  · exact timedBy_self

end Columns

section Parsers

variable (env : Environment) (Pt Fault : Type) [Point Pt] (parserFaultMessage : UdpPacket → Fault → Fault)

def udp61Timed : TimedParser env GeneralParser Pt Fault :=
  (udp61Counting env Pt Fault).timed
    (fun packet => (V61.getMicroLidarTime env packet (V61.headerAt env packet).tailOffset).val)
    fun _ _ _ => Udp61Parser.decodePacket_timed

def udp14Timed : TimedParser env Udp14Parser Pt Fault :=
  (udp14Counting env Pt Fault).timed
    (fun packet => (V14.getMicroLidarTime env packet (V14.headerAt env packet).tailOffset).val)
    fun _ _ _ => Udp14Parser.decodePacket_timed

def udp31Timed : TimedParser env GeneralParser Pt Fault :=
  (udp31Counting env Pt Fault).timed
    (fun packet => (V31.getMicroLidarTime env packet (V31.layout (V31.readHeader env packet).val).endOffset).val)
    fun _ _ _ => Udp31Parser.decodePacket_timed

def udp32Timed : TimedParser env Udp32Parser Pt Fault :=
  (udp32Counting env Pt Fault).timed
    (fun packet => (V32.getMicroLidarTime env packet (V32.tailOffset (V32.readHeader env packet).val)).val)
    fun _ _ _ => Udp32Parser.decodePacket_timed

def udpP40Timed : TimedParser env GeneralParser Pt Fault :=
  (udpP40Counting env Pt Fault).timed (fun packet => (P40.getMicroLidarTime env packet P40.layout.endOffset).val)
    fun _ _ _ => UdpP40Parser.decodePacket_timed

def udpP64Timed : TimedParser env GeneralParser Pt Fault :=
  (udpP64Counting env Pt Fault).timed
    (fun packet => (P64.getMicroLidarTime env packet (P64.layout (P64.readHeader env packet).val).endOffset).val)
    fun _ _ _ => UdpP64Parser.decodePacket_timed

def udp43Timed : TimedParser env Udp43Parser Pt Fault where
  toParser := udp43 env Pt Fault parserFaultMessage
  general p := p.toGeneralParser
  timestamp packet := (V43.getMicroLidarTime env packet (V43.headerAt env packet).tailOffset).val
  cuts p packet := p.cuts env packet
  completes _ _ _ := Udp43Parser.decodePacket_completes
  timed _ _ _ := Udp43Parser.decodePacket_timed

def udp47Timed : TimedParser env Udp47Parser Pt Fault where
  toParser := udp47 env Pt Fault parserFaultMessage
  general p := p.toGeneralParser
  timestamp packet := (V47.getMicroLidarTime env packet (V47.headerAt env packet).tailOffset).val
  cuts p packet := p.cuts env packet
  completes _ _ _ := Udp47Parser.decodePacket_completes
  timed _ _ _ := Udp47Parser.decodePacket_timed

def udp72Timed : TimedParser env Udp72Parser Pt Fault where
  toParser := udp72 env Pt Fault
  general p := p.toGeneralParser
  timestamp packet := (V72.getMicroLidarTime env packet (V72.headerAt env packet).tailOffset).val
  cuts p packet := p.isNeedFrameSplit (Udp72Parser.columnIdAt env packet)
  completes p frame packet hret := by
    have hval := (Udp72Parser.decodePacket_val env packet p frame).trans (if_pos (Udp72Parser.decodePacket_ret.mp hret))
    exact congrArg (fun d => d.frame.scanComplete) hval
  timed _ _ _ := Udp72Parser.decodePacket_timed

variable {Fault} (faultMessage43 faultMessage47 : UdpPacket → Fault → Fault)

/-- All classes hand the timestamps of their packets to the tool. -/
def parserTimed : ∀ type, TimedParser env (ParserState type) Pt Fault
  | .udpP40 => udpP40Timed env Pt Fault
  | .udpP64 => udpP64Timed env Pt Fault
  | .udp14 => udp14Timed env Pt Fault
  | .udp24 => EtParser.timed _ (udp24_guards env Pt Fault)
  | .udp25 => EtParser.timed _ (udp25_guards env Pt Fault)
  | .udp26 => EtParser.timed _ (udp26_guards env Pt Fault)
  | .udp31 => udp31Timed env Pt Fault
  | .udp32 => udp32Timed env Pt Fault
  | .udp43 => udp43Timed env Pt Fault faultMessage43
  | .udp47 => udp47Timed env Pt Fault faultMessage47
  | .udp61 => udp61Timed env Pt Fault
  | .udp72 => udp72Timed env Pt Fault

end Parsers

end HesaiSdk.Parsing
