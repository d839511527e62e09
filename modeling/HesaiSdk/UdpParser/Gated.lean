import HesaiSdk.UdpParser.Framing
import HesaiSdk.UdpParser.ParserClass

/-! The parsers whose calibration and whose packet alone decide on what is accepted. -/

namespace HesaiSdk.Parsing

open Library Library.BlockWalk Lidar UdpProtocol

/-- An accepted packet is one more of its frame, and leaves the gate as it is. -/
structure GatedParser (σ Pt Fault : Type) extends Parser σ Pt Fault where
  opened : σ → Prop
  accepts : UdpPacket → Prop
  rejected : ∀ p frame packet, ¬(opened p ∧ accepts packet) →
    (decodePacket p frame packet).val = ⟨-1, p, frame⟩
  accepted : ∀ p frame packet, opened p → accepts packet →
    let d := (decodePacket p frame packet).val
    d.ret = 0 ∧ opened d.parser ∧ d.frame.packetNum = frame.packetNum + 1
  stampIndex : ∀ p frame packet,
    AllLog (Bounds.Allows { sensorTimestamp := (· = frame.packetNum) }) (decodePacket p frame packet)
  computeIndex : ∀ p frame packetIndex,
    AllLog (Bounds.Allows { sensorTimestamp := (· = packetIndex) }) (computeXYZI p frame packetIndex)

namespace GatedParser

variable {σ Pt Fault : Type} (G : GatedParser σ Pt Fault)

lemma decodePacket_ret {p : σ} {frame : LidarDecodedFrame Pt} {packet : UdpPacket} :
    (G.decodePacket p frame packet).val.ret = 0 ↔ G.opened p ∧ G.accepts packet := by
  by_cases h : G.opened p ∧ G.accepts packet
  · exact iff_of_true (G.accepted p frame packet h.1 h.2).1 h
  · rw [G.rejected p frame packet h]
    exact iff_of_false (by decide : ¬(-1 : ℤ) = 0) h

def framing : FramingParser σ Pt Fault where
  toParser := G.toParser
  Received _ := True
  counts p frame packet _ := by
    by_cases h : G.opened p ∧ G.accepts packet
    · obtain ⟨hret, -, hnum⟩ := G.accepted p frame packet h.1 h.2
      exact Or.inr (Or.inl ⟨hret, hnum⟩)
    · rw [G.rejected p frame packet h]
      exact Or.inl ⟨show (-1 : ℤ) ≠ 0 by decide, rfl⟩
  acceptsAgain p frame packet _ := by
    intro d hret _ frame'
    obtain ⟨hopened, haccepts⟩ := G.decodePacket_ret.mp hret
    obtain ⟨-, hkept, -⟩ := G.accepted p frame packet hopened haccepts
    obtain ⟨hret', -, hnum'⟩ := G.accepted d.parser frame' packet hkept haccepts
    exact ⟨hret', hnum'⟩
  stampIndex := G.stampIndex
  computeIndex := G.computeIndex

end GatedParser

section Stamps

variable {env : Environment} {packet : UdpPacket} {n : ℕ}

/-- Of all accesses only those to the time stamps are looked at. -/
abbrev OnlyStamp (n : ℕ) : DecodeEvent → Prop := Bounds.Allows { sensorTimestamp := (· = n) }

lemma onlyStamp_byte (o : ℕ) : OnlyStamp n (.byte o) := trivial

@[simp] lemma onlyStamp_readU8 {o : ℕ} : AllLog (OnlyStamp n) (readU8 env packet o) := allLog_readU8 onlyStamp_byte

@[simp] lemma onlyStamp_readU16 {o : ℕ} : AllLog (OnlyStamp n) (readU16 env packet o) := allLog_readU16 onlyStamp_byte

@[simp] lemma onlyStamp_readI16 {o : ℕ} : AllLog (OnlyStamp n) (readI16 env packet o) := allLog_readI16 onlyStamp_byte

@[simp] lemma onlyStamp_readU32 {o : ℕ} : AllLog (OnlyStamp n) (readU32 env packet o) := allLog_readU32 onlyStamp_byte

@[simp] lemma onlyStamp_time {tmYear : UInt8 → Option ℤ} {utc timestamp : ℕ} :
    AllLog (OnlyStamp n) (getMicroLidarTimeU64 env packet tmYear utc timestamp) :=
  allLog_getMicroLidarTimeU64 onlyStamp_byte

lemma onlyStamp_store {Pt : Type} {frame : LidarDecodedFrame Pt} {recvTimestamp : UInt64}
    {lidarTime : Logged DecodeEvent UInt64} (htime : AllLog (OnlyStamp frame.packetNum) lidarTime) :
    AllLog (OnlyStamp frame.packetNum) (storeSensorTimestamp frame recvTimestamp lidarTime) :=
  allows_storeSensorTimestamp.mpr ⟨fun _ => htime, rfl⟩

lemma onlyStamp_tests {σ Pt : Type} {getCorrectionFile : Bool} {parser : σ} {frame : LidarDecodedFrame Pt}
    {body : Logged DecodeEvent (Decoded σ Pt)} (hbody : AllLog (OnlyStamp n) body) :
    AllLog (OnlyStamp n) (if getCorrectionFile = false then reject parser frame
      else afterDelimiter env packet parser frame body) :=
  (allows_afterTests trivial trivial).mpr fun _ => hbody

lemma onlyStamp_walk {l : BodyLayout} {fireTimes : FireTimes} {rotationFlag : ℤ} {packetNum : ℕ}
    {store : ℕ → PointDecodeData → Logged DecodeEvent PointDecodeData} {pointData : ℕ → PointDecodeData}
    (hfire : ∀ b j time, fireTimes b j = some time → AllLog (OnlyStamp n) time)
    (hstore : ∀ o slot, AllLog (OnlyStamp n) (store o slot)) :
    AllLog (OnlyStamp n) (mechanicalWalk env packet l fireTimes rotationFlag store packetNum pointData) := by
  exact (allows_mechanicalWalk (fun _ => trivial) hfire hstore).mpr fun _ _ _ _ => trivial

end Stamps

section Mechanical

variable {env : Environment} {packet : UdpPacket} {Pt : Type} {frame : LidarDecodedFrame Pt}

lemma Udp31Parser.onlyStamp_decodePacket {p : GeneralParser} :
    AllLog (OnlyStamp frame.packetNum) (decodePacket env packet p frame) := by
  refine onlyStamp_tests (allLog_bind.mpr ⟨?_, ?_⟩)
  · simp only [V31.readHeader, allLog_bind, onlyStamp_readU8, allLog_pure, and_self]
  · simp only [decodeBody, V31.getMicroLidarTime, allLog_bind, allLog_note, allLog_pure, onlyStamp_readU8,
      onlyStamp_readU16, onlyStamp_readU32, onlyStamp_time, onlyStamp_store onlyStamp_time,
      onlyStamp_walk (GeneralParser.allows_fireTimes _) fun _ _ => allLog_pure _, and_true, true_and]
    trivial

lemma Udp32Parser.onlyStamp_decodePacket {p : Udp32Parser} :
    AllLog (OnlyStamp frame.packetNum) (decodePacket env packet p frame) := by
  have hcount (h : BodyHeader) (g : GeneralParser) :
      AllLog (OnlyStamp frame.packetNum) (countPacket env packet h g) := by
    simp only [countPacket, V32.getMicroLidarTime, allLog_bind, onlyStamp_time, allLog_pure, and_true]
    split_ifs
    · simp only [allLog_bind, onlyStamp_readU32, allLog_note, allLog_pure, and_true, true_and]
      trivial
    · exact allLog_pure _
  have hfire (h : BodyHeader) (motorSpeed : UInt16) (modeFlag returnMode : UInt8) (b j : ℕ)
      (time : Logged DecodeEvent ℚ) (htime : p.fireTimes h motorSpeed modeFlag returnMode b j = some time) :
      AllLog (OnlyStamp frame.packetNum) time := by
    simp only [fireTimes] at htime
    split_ifs at htime
    obtain rfl := Option.some.inj htime
    exact allLog_pure _
  have hstore (h : BodyHeader) (o : ℕ) (slot : PointDecodeData) :
      AllLog (OnlyStamp frame.packetNum) (storeConfidence env packet h o slot) := by
    rw [storeConfidence]
    split_ifs
    · exact allLog_bind.mpr ⟨onlyStamp_readU8, allLog_pure _⟩
    · exact allLog_pure _
  refine onlyStamp_tests (allLog_bind.mpr ⟨?_, ?_⟩)
  · simp only [V32.readHeader, allLog_bind, onlyStamp_readU8, allLog_pure, and_self]
  · simp only [decodeBody, V32.getMicroLidarTime, allLog_bind, allLog_pure, onlyStamp_readU8, onlyStamp_readU16,
      onlyStamp_store onlyStamp_time, onlyStamp_walk (hfire _ _ _ _) (hstore _), and_true, true_and]
    constructor
    · split_ifs
      · exact hcount _ _
      · exact allLog_pure _
    · split_ifs
      · exact allLog_pure _
      · exact onlyStamp_readU8

lemma UdpP40Parser.onlyStamp_decodePacket {p : GeneralParser} :
    AllLog (OnlyStamp frame.packetNum) (decodePacket env packet p frame) := by
  have hbody : AllLog (OnlyStamp frame.packetNum) (decodeBody env packet p frame) := by
    simp only [decodeBody, P40.getMicroLidarTime, P64.getMicroLidarTime, allLog_bind, allLog_note, allLog_pure,
      onlyStamp_readU8, onlyStamp_readU16, onlyStamp_readU32, onlyStamp_time, onlyStamp_store onlyStamp_time,
      onlyStamp_walk (GeneralParser.allows_fireTimes _) fun _ _ => allLog_pure _, and_true, true_and]
    trivial
  rw [decodePacket, afterSob]
  split_ifs
  · exact allLog_pure _
  · refine allLog_bind.mpr ⟨onlyStamp_readU8, ?_⟩
    split_ifs
    · exact allLog_pure _
    · refine allLog_bind.mpr ⟨onlyStamp_readU8, ?_⟩
      split_ifs
      · exact allLog_pure _
      · exact hbody

lemma UdpP64Parser.onlyStamp_decodePacket {p : GeneralParser} :
    AllLog (OnlyStamp frame.packetNum) (decodePacket env packet p frame) := by
  refine onlyStamp_tests (allLog_bind.mpr ⟨?_, ?_⟩)
  · simp only [P64.readHeader, allLog_bind, onlyStamp_readU8, allLog_pure, and_self]
  · simp only [decodeBody, P64.getMicroLidarTime, allLog_bind, allLog_note, allLog_pure, onlyStamp_readU8,
      onlyStamp_readU16, onlyStamp_readU32, onlyStamp_time, onlyStamp_store onlyStamp_time,
      onlyStamp_walk (GeneralParser.allows_fireTimes _) fun _ _ => allLog_pure _, and_true, true_and]
    trivial

variable (env Pt) (Fault : Type) [Point Pt]

def udp31Gated : GatedParser GeneralParser Pt Fault where
  toParser := udp31 env Pt Fault
  opened p := p.getCorrectionFile = true
  accepts packet := Delimited env packet
  rejected _ _ _ h := afterTests_val.trans (if_neg h)
  accepted p frame packet hget hd := by
    have hret : (Udp31Parser.decodePacket env packet p frame).val.ret = 0 :=
      Udp31Parser.decodePacket_ret.mpr ⟨hget, hd⟩
    refine ⟨hret, (congrArg Calibration.getCorrectionFile Udp31Parser.decodePacket_calibration).trans hget, ?_⟩
    exact congrArg (fun d => d.frame.packetNum) (Udp31Parser.decodePacket_accepted hret)
  stampIndex _ _ _ := Udp31Parser.onlyStamp_decodePacket
  computeIndex _ _ _ := allLog_fillGrid _ _ _ fun _ => trivial

def udp32Gated : GatedParser Udp32Parser Pt Fault where
  toParser := udp32 env Pt Fault
  opened p := p.getCorrectionFile = true
  accepts packet := Delimited env packet
  rejected _ _ _ h := afterTests_val.trans (if_neg h)
  accepted p frame packet hget hd := by
    have hret : (Udp32Parser.decodePacket env packet p frame).val.ret = 0 :=
      Udp32Parser.decodePacket_ret.mpr ⟨hget, hd⟩
    refine ⟨hret, (congrArg Calibration.getCorrectionFile Udp32Parser.decodePacket_calibration).trans hget, ?_⟩
    exact congrArg (fun d => d.frame.packetNum) (Udp32Parser.decodePacket_accepted hret)
  stampIndex _ _ _ := Udp32Parser.onlyStamp_decodePacket
  computeIndex _ _ _ := allLog_fillGrid _ _ _ fun _ => trivial

def udpP40Gated : GatedParser GeneralParser Pt Fault where
  toParser := udpP40 env Pt Fault
  opened p := p.getCorrectionFile = true
  accepts packet := byteAt env packet 0 = 0xFF ∧ byteAt env packet 1 = 0xEE
  rejected _ _ _ h := UdpP40Parser.decodePacket_val.trans (if_neg h)
  accepted p frame packet hget hd := by
    have hret : (UdpP40Parser.decodePacket env packet p frame).val.ret = 0 :=
      UdpP40Parser.decodePacket_ret.mpr ⟨hget, hd⟩
    refine ⟨hret, (congrArg Calibration.getCorrectionFile UdpP40Parser.decodePacket_calibration).trans hget, ?_⟩
    exact congrArg (fun d => d.frame.packetNum) (UdpP40Parser.decodePacket_accepted hret)
  stampIndex _ _ _ := UdpP40Parser.onlyStamp_decodePacket
  computeIndex _ _ _ := allLog_fillGrid _ _ _ fun _ => trivial

def udpP64Gated : GatedParser GeneralParser Pt Fault where
  toParser := udpP64 env Pt Fault
  opened p := p.getCorrectionFile = true
  accepts packet := Delimited env packet
  rejected _ _ _ h := afterTests_val.trans (if_neg h)
  accepted p frame packet hget hd := by
    have hret : (UdpP64Parser.decodePacket env packet p frame).val.ret = 0 :=
      UdpP64Parser.decodePacket_ret.mpr ⟨hget, hd⟩
    refine ⟨hret, (congrArg Calibration.getCorrectionFile UdpP64Parser.decodePacket_calibration).trans hget, ?_⟩
    exact congrArg (fun d => d.frame.packetNum) (UdpP64Parser.decodePacket_accepted hret)
  stampIndex _ _ _ := UdpP64Parser.onlyStamp_decodePacket
  computeIndex _ _ _ := allLog_fillGrid _ _ _ fun _ => trivial

end Mechanical

section Classes

variable (env : Environment) (Pt Fault : Type) [Point Pt]

def udp24 : Parser (EtParser ETCorrectionsV4) Pt Fault where
  new _ := default
  decodePacket p frame packet := Udp24Parser.decodePacket env packet p frame
  computeXYZI p frame packetIndex := Udp24Parser.computeXYZI env p.corrections frame packetIndex
  parserFaultMessage _ _ info := info

def udp25 : Parser (EtParser ETCorrections) Pt Fault where
  new _ := default
  decodePacket p frame packet := Udp25Parser.decodePacket env packet p frame
  computeXYZI p frame packetIndex := Udp25Parser.computeXYZI env p.corrections frame packetIndex
  parserFaultMessage _ _ info := info

def udp26 : Parser (EtParser ETCorrections) Pt Fault where
  new _ := default
  decodePacket p frame packet := Udp26Parser.decodePacket env packet p frame
  computeXYZI p frame packetIndex := Udp26Parser.computeXYZI env p.corrections frame packetIndex
  parserFaultMessage _ _ info := info

def udp72 : Parser Udp72Parser Pt Fault where
  new _ := default
  decodePacket p frame packet := p.decodePacket env packet frame
  computeXYZI p frame packetIndex := p.computeXYZI env frame packetIndex
  parserFaultMessage _ _ info := info

end Classes

section Et

variable {env : Environment} {packet : UdpPacket} {n : ℕ} {Corrections Pt : Type} {p : EtParser Corrections}
  {frame : LidarDecodedFrame Pt}

lemma EtBody.onlyStamp_walk {body : EtBody} {index : ℕ} {slots : ℕ → PointDecodeData}
    (hunit : ∀ azimuth elevation o slot, AllLog (OnlyStamp n) (body.writeUnit azimuth elevation o slot)) :
    AllLog (OnlyStamp n) (body.walk env packet index slots) := by
  have hunits : AllLog (OnlyStamp n) body.unitsPerSeq := allLog_bind.mpr ⟨allLog_note.mpr trivial, allLog_pure _⟩
  have hstep (azimuth elevation : ℚ) (i : ℕ) (c : EtCursor) :
      AllLog (OnlyStamp n) (body.unitStep azimuth elevation i c) := by
    simp only [unitStep, allLog_bind, hunit, allLog_note, allLog_pure, and_true, true_and]
    trivial
  have hseq (i : ℕ) (c : EtCursor) : AllLog (OnlyStamp n) (body.seqStep env packet i c) := by
    simp only [seqStep, allLog_bind, onlyStamp_readI16, hunits, allLog_loop, hstep, implies_true, allLog_pure, and_self]
  have hblock (i : ℕ) (c : EtCursor) : AllLog (OnlyStamp n) (body.blockStep env packet i c) := by
    simp only [blockStep, allLog_bind, allLog_loop, hseq, implies_true, allLog_pure, and_self]
  simp only [walk, allLog_bind, allLog_loop, hblock, implies_true, allLog_pure, and_self]

lemma EtParser.onlyStamp_guarded {body : Logged DecodeEvent (Decoded (EtParser Corrections) Pt)}
    (hbody : AllLog (OnlyStamp n) body) : AllLog (OnlyStamp n) (guarded env packet p frame body) :=
  onlyStamp_tests hbody

lemma EtParser.onlyStamp_decodeMessage {m : EtMessage}
    {walk : (ℕ → PointDecodeData) → Logged DecodeEvent (ℕ → PointDecodeData)}
    (hwalk : AllLog (OnlyStamp frame.packetNum) (walk frame.pointData)) :
    AllLog (OnlyStamp frame.packetNum) (decodeMessage env packet m p frame walk) :=
  (Around.of_byte onlyStamp_byte trivial (fun _ => trivial) rfl).decodeMessage hwalk

lemma EtHeader.onlyStamp_read : AllLog (OnlyStamp n) (EtHeader.read env packet) := by
  simp only [EtHeader.read, allLog_bind, onlyStamp_readU8, allLog_pure, and_self]

lemma Udp24Parser.onlyStamp_decodePacket :
    AllLog (OnlyStamp frame.packetNum) (decodePacket env packet p frame) := by
  refine EtParser.onlyStamp_guarded (allLog_bind.mpr ⟨EtHeader.onlyStamp_read, ?_⟩)
  refine EtParser.onlyStamp_decodeMessage (EtBody.onlyStamp_walk fun _ _ _ _ => ?_)
  simp only [body, allLog_bind, onlyStamp_readU8, onlyStamp_readU16, allLog_pure, and_self]

lemma Udp25Parser.onlyStamp_decodePacket :
    AllLog (OnlyStamp frame.packetNum) (decodePacket env packet p frame) := by
  refine EtParser.onlyStamp_guarded (allLog_bind.mpr ⟨EtHeader.onlyStamp_read, ?_⟩)
  refine EtParser.onlyStamp_decodeMessage (allLog_bind.mpr ⟨onlyStamp_readU8, EtBody.onlyStamp_walk fun _ _ _ _ => ?_⟩)
  simp only [body, allLog_bind, onlyStamp_readU8, onlyStamp_readU16, allLog_pure, and_self]

lemma Udp26Parser.onlyStamp_walk {h : V26.Header} {index : ℕ} {slots : ℕ → PointDecodeData} :
    AllLog (OnlyStamp n) (walk env packet h index slots) := by
  have hunits : AllLog (OnlyStamp n) (unitsPerSeq h) := allLog_bind.mpr ⟨allLog_note.mpr trivial, allLog_pure _⟩
  have hfirst (azimuth elevation : ℚ) (i : ℕ) (c : Cursor) :
      AllLog (OnlyStamp n) (unitStep1 env packet azimuth elevation i c) := by
    simp only [unitStep1, writeUnit1, allLog_bind, onlyStamp_readU8, onlyStamp_readU16, allLog_note, allLog_pure,
      and_true, true_and]
    trivial
  have hsecond (azimuth elevation : ℚ) (i : ℕ) (c : Cursor) :
      AllLog (OnlyStamp n) (unitStep2 env packet azimuth elevation i c) := by
    simp only [unitStep2, writeUnit2, allLog_bind, onlyStamp_readU8, onlyStamp_readU16, allLog_note, allLog_pure,
      and_true, true_and]
    trivial
  have hseq (i : ℕ) (c : Cursor) : AllLog (OnlyStamp n) (seqStep env packet h i c) := by
    simp only [seqStep, allLog_bind, onlyStamp_readI16, hunits, allLog_loop, hfirst, hsecond, implies_true, allLog_pure,
      and_self]
  simp only [walk, allLog_bind, hunits, allLog_loop, hseq, implies_true, allLog_pure, and_self]

lemma Udp26Parser.onlyStamp_decodePacket :
    AllLog (OnlyStamp frame.packetNum) (decodePacket env packet p frame) := by
  refine EtParser.onlyStamp_guarded (allLog_bind.mpr ⟨?_, EtParser.onlyStamp_decodeMessage onlyStamp_walk⟩)
  simp only [V26.Header.read, allLog_bind, onlyStamp_readU8, onlyStamp_readU16, allLog_pure, and_self]

lemma EtParser.countSeqNum_calibration {m : EtMessage} {g : GeneralParser} :
    (countSeqNum env packet m g).val.toCalibration = g.toCalibration := by
  rw [countSeqNum]
  split
  · exact GeneralParser.calPktLoss_calibration env g _
  · rfl

lemma EtParser.decodeMessage_calibration {m : EtMessage}
    {walk : (ℕ → PointDecodeData) → Logged DecodeEvent (ℕ → PointDecodeData)} :
    (decodeMessage env packet m p frame walk).val.parser.toCalibration = p.toCalibration := by
  simp only [decodeMessage, val_bind, val_pure]
  exact (GeneralParser.calPktTimeLoss_calibration env _ _).trans countSeqNum_calibration

lemma EtParser.decodeMessage_of_read {H : Type} {read : Logged DecodeEvent H} {m : H → EtMessage}
    {walk : H → (ℕ → PointDecodeData) → Logged DecodeEvent (ℕ → PointDecodeData)} :
    (read >>= fun h => decodeMessage env packet (m h) p frame (walk h)).val =
      (decodeMessage env packet (m read.val) p frame (walk read.val)).val := val_bind _ _

variable {Fault : Type}

/-- `P` decodes this message behind the tests of the ET parsers. -/
structure EtParser.Guards (env : Environment) (message : UdpPacket → EtMessage)
    (P : Parser (EtParser Corrections) Pt Fault) : Prop where
  decodes : ∀ p frame packet, ∃ (walk : (ℕ → PointDecodeData) → Logged DecodeEvent (ℕ → PointDecodeData))
      (body : Logged DecodeEvent (Decoded (EtParser Corrections) Pt)),
    P.decodePacket p frame packet = guarded env packet p frame body ∧
      body.val = (decodeMessage env packet (message packet) p frame walk).val
  stampIndex : ∀ p frame packet, AllLog (OnlyStamp frame.packetNum) (P.decodePacket p frame packet)
  computeIndex : ∀ p frame packetIndex, AllLog (OnlyStamp packetIndex) (P.computeXYZI p frame packetIndex)

variable {message : UdpPacket → EtMessage}

def EtParser.gated (P : Parser (EtParser Corrections) Pt Fault) (h : Guards env message P) :
    GatedParser (EtParser Corrections) Pt Fault where
  toParser := P
  opened p := p.getCorrectionFile = true
  accepts packet := Delimited env packet
  rejected p frame packet hn := by
    obtain ⟨walk, body, hdecode, -⟩ := h.decodes p frame packet
    rw [hdecode, guarded_val, if_neg hn]
  accepted p frame packet hget hd := by
    obtain ⟨walk, body, hdecode, hbody⟩ := h.decodes p frame packet
    rw [hdecode, guarded_val, if_pos ⟨hget, hd⟩, hbody]
    exact ⟨rfl, (congrArg Calibration.getCorrectionFile decodeMessage_calibration).trans hget, rfl⟩
  stampIndex := h.stampIndex
  computeIndex := h.computeIndex

variable (env Pt Fault) [Point Pt]

lemma udp24_guards :
    EtParser.Guards env (fun packet => V24.message (EtHeader.headerAt env packet)) (udp24 env Pt Fault) where
  decodes _ _ _ := ⟨_, _, rfl, EtParser.decodeMessage_of_read⟩
  stampIndex _ _ _ := Udp24Parser.onlyStamp_decodePacket
  computeIndex _ _ _ := allLog_fillGrid _ _ _ fun _ => trivial

lemma udp25_guards :
    EtParser.Guards env (fun packet => V25.message (EtHeader.headerAt env packet)) (udp25 env Pt Fault) where
  decodes _ _ _ := ⟨_, _, rfl, EtParser.decodeMessage_of_read⟩
  stampIndex _ _ _ := Udp25Parser.onlyStamp_decodePacket
  computeIndex _ _ _ := allLog_fillGrid _ _ _ fun _ => trivial

lemma udp26_guards :
    EtParser.Guards env (fun packet => (V26.Header.headerAt env packet).message) (udp26 env Pt Fault) where
  decodes _ _ _ := ⟨_, _, rfl, EtParser.decodeMessage_of_read⟩
  stampIndex _ _ _ := Udp26Parser.onlyStamp_decodePacket
  computeIndex _ _ _ := allLog_fillRow _ _ _ fun _ => trivial

end Et

section Columns

variable {env : Environment} {packet : UdpPacket} {Pt : Type} {frame : LidarDecodedFrame Pt}

lemma Udp47Parser.onlyStamp_decodePacket {p : Udp47Parser} :
    AllLog (OnlyStamp frame.packetNum) (p.decodePacket env packet frame) := by
  have hcount (h : V47.Header) (g : GeneralParser) :
      AllLog (OnlyStamp frame.packetNum) (countSeqNum env packet h g) := by
    rw [countSeqNum]
    split
    · simp only [allLog_bind, onlyStamp_readU32, allLog_note, allLog_pure, and_true, true_and]
      trivial
    · exact allLog_pure _
  refine onlyStamp_tests (allLog_bind.mpr ⟨?_, ?_⟩)
  · simp only [V47.readHeader, V43.readHeader, allLog_bind, onlyStamp_readU8, allLog_pure, and_self]
  · have hwalk (h : V47.Header) (frameId : UInt8) (motorSpeed : UInt16) (index : ℕ) (cut : BlockCut) :
        AllLog (OnlyStamp frame.packetNum) ((bodyReader env packet p frameId motorSpeed).walk h.getLaserNum
          h.getBlockNum (⟨V43.Header.bodyOffset, index, frame.pointData⟩, cut)) := by
      rw [BlockReader.allLog_walk]
      intro b _
      refine ⟨onlyStamp_readU16, fun j _ => ⟨?_, trivial⟩⟩
      simp only [BlockReader.unitAt, bodyReader, V47.readChnUnit, V43.readChnUnit, allLog_bind, onlyStamp_readU16,
        onlyStamp_readU8, allLog_pure, and_self]
    simp only [decodeBody, V47.getMicroLidarTime, V43.getMicroLidarTime, V47.readMotorSpeed, V47.readReturnMode,
      V47.readFrameId, allLog_bind, allLog_pure, hcount, onlyStamp_readU8, onlyStamp_readU16, onlyStamp_time,
      onlyStamp_store onlyStamp_time, hwalk, and_self]

lemma Udp72Parser.onlyStamp_decodePacket {p : Udp72Parser} :
    AllLog (OnlyStamp frame.packetNum) (p.decodePacket env packet frame) := by
  have hwalk (h : V72.Header) (columnId : UInt16) (index : ℕ) :
      AllLog (OnlyStamp frame.packetNum) ((bodyReader env packet p columnId).walk h.getChannelNum 1
        (⟨V72.Header.bodyOffset, index, frame.pointData⟩, ())) := by
    rw [BlockReader.allLog_walk]
    intro b _
    refine ⟨allLog_pure _, fun j _ => ⟨?_, trivial⟩⟩
    simp only [BlockReader.unitAt, bodyReader, V72.getReflectivity, V72.getDistance, allLog_bind, allLog_note,
      onlyStamp_readU16, onlyStamp_readU8, allLog_pure, and_true]
    trivial
  refine onlyStamp_tests (allLog_bind.mpr ⟨?_, ?_⟩)
  · simp only [V72.readHeader, allLog_bind, onlyStamp_readU8, onlyStamp_readU16, allLog_pure, and_self]
  · simp only [decodeBody, V72.getMicroLidarTime, V72.readSequenceNum, V72.readColumnId, allLog_bind, allLog_note,
      allLog_pure, onlyStamp_readU16, onlyStamp_readU32, onlyStamp_time, onlyStamp_store onlyStamp_time, hwalk,
      and_true, true_and]
    trivial

variable (env packet frame) in
lemma Udp47Parser.decodePacket_val (p : Udp47Parser) : (p.decodePacket env packet frame).val =
    if p.getCorrectionFile = true ∧ Delimited env packet
    then (decodeBody env packet (V47.headerAt env packet) p frame).val else ⟨-1, p, frame⟩ := by
  rw [decodePacket, afterTests_val, val_bind, V47.headerAt]

lemma Udp47Parser.decodeBody_calibration {h : V47.Header} {p : Udp47Parser} :
    (decodeBody env packet h p frame).val.parser.toCalibration = p.toCalibration := by
  simp only [decodeBody, val_bind, val_pure]
  refine (GeneralParser.calPktTimeLoss_calibration env _ _).trans ?_
  rw [countSeqNum]
  split
  · exact GeneralParser.calPktLoss_calibration env _ _
  · rfl

lemma Udp72Parser.decodeBody_calibration {h : V72.Header} {p : Udp72Parser} :
    (decodeBody env packet h p frame).val.parser.toCalibration = p.toCalibration := by
  simp only [decodeBody, val_bind, val_pure]
  exact (GeneralParser.calPktTimeLoss_calibration env _ _).trans (GeneralParser.calPktLoss_calibration env _ _)

variable (env Pt) (Fault : Type) [Point Pt]

def udp47Gated (parserFaultMessage : UdpPacket → Fault → Fault) : GatedParser Udp47Parser Pt Fault where
  toParser := udp47 env Pt Fault parserFaultMessage
  opened p := p.getCorrectionFile = true
  accepts packet := Delimited env packet
  rejected p _ _ h := (p.decodePacket_val env _ _).trans (if_neg h)
  accepted p frame packet hget hd := by
    have hval := (p.decodePacket_val env packet frame).trans (if_pos ⟨hget, hd⟩)
    refine ⟨congrArg Decoded.ret hval, ?_, congrArg (fun d => d.frame.packetNum) hval⟩
    exact (congrArg (fun d => d.parser.getCorrectionFile) hval).trans
      ((congrArg Calibration.getCorrectionFile Udp47Parser.decodeBody_calibration).trans hget)
  stampIndex _ _ _ := Udp47Parser.onlyStamp_decodePacket
  computeIndex _ _ _ := allLog_fillGrid _ _ _ fun _ => trivial

def udp72Gated : GatedParser Udp72Parser Pt Fault where
  toParser := udp72 env Pt Fault
  opened p := p.getCorrectionFile = true
  accepts packet := Delimited env packet
  rejected _ _ _ h := (Udp72Parser.decodePacket_val env _ _ _).trans (if_neg h)
  accepted p frame packet hget hd := by
    have hval := (Udp72Parser.decodePacket_val env packet p frame).trans (if_pos ⟨hget, hd⟩)
    refine ⟨congrArg Decoded.ret hval, ?_, congrArg (fun d => d.frame.packetNum) hval⟩
    exact (congrArg (fun d => d.parser.getCorrectionFile) hval).trans
      ((congrArg Calibration.getCorrectionFile Udp72Parser.decodeBody_calibration).trans hget)
  stampIndex _ _ _ := Udp72Parser.onlyStamp_decodePacket
  computeIndex _ _ _ := allLog_fillRow _ _ _ fun _ => trivial

end Columns

end HesaiSdk.Parsing
