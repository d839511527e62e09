import HesaiSdk.UdpParser.Gated
import HesaiSdk.UdpParser.Udp72Extent

/-! The parsers that cut a frame by a value of the packet against that of the packet before. -/

namespace HesaiSdk.Parsing

open Library Library.BlockWalk Lidar UdpProtocol

/-- `same` are two neighbours of one frame; `last` is the packet of which the parser keeps what it compares. -/
structure CuttingParser (σ Pt Fault : Type) extends GatedParser σ Pt Fault where
  marked : UdpPacket → Prop
  same : UdpPacket → UdpPacket → Bool
  last : σ → UdpPacket → Prop
  steady : σ → Prop
  cut : ∀ p frame packet, steady p → opened p → accepts packet → marked packet →
    let d := (decodePacket p frame packet).val
    steady d.parser ∧ last d.parser packet ∧ ∀ before, last p before → d.frame.scanComplete = !same before packet

section Et

variable {env : Environment} {packet : UdpPacket} {Corrections Pt Fault : Type} {p : EtParser Corrections}
  {frame : LidarDecodedFrame Pt} {message : UdpPacket → EtMessage}

lemma EtParser.countSeqNum_useAngle {m : EtMessage} {g : GeneralParser} :
    (countSeqNum env packet m g).val.useAngle = g.useAngle := by
  rw [countSeqNum]
  split_ifs
  · obtain ⟨_, _, _, heq⟩ := g.calPktLoss_frame env (readU32 env packet m.seqNumOffset).val
    simp only [val_bind, val_pure, heq]
  · rfl

lemma EtParser.decodeMessage_useAngle {m : EtMessage}
    {walk : (ℕ → PointDecodeData) → Logged DecodeEvent (ℕ → PointDecodeData)} :
    (decodeMessage env packet m p frame walk).val.parser.useAngle = p.useAngle := by
  obtain ⟨_, _, heq⟩ := (countSeqNum env packet m p.toGeneralParser).val.calPktTimeLoss_frame env
    (m.getMicroLidarTime env packet).val
  simp only [decodeMessage, val_bind, val_pure, GeneralParser.tick, heq]
  exact countSeqNum_useAngle

variable (env message) in
def EtParser.frameIdOf (packet : UdpPacket) : UInt8 := byteAt env packet (message packet).frameIdOffset

lemma parts_eq {old new : UInt8} :
    (decide ((new.toNat : ℤ) ≠ old.toNat ∧ 0 ≤ (old.toNat : ℤ)) : Bool) = !(old == new) := by
  rw [Bool.eq_iff_iff]
  simp only [decide_eq_true_iff, Bool.not_eq_true', beq_eq_false_iff_ne, ne_eq, ← UInt8.toNat_inj]
  omega

lemma EtParser.decodeMessage_cut {m : EtMessage}
    {walk : (ℕ → PointDecodeData) → Logged DecodeEvent (ℕ → PointDecodeData)} {old : UInt8} (hangle : p.useAngle = true)
    (hlast : p.lastFrameid = old.toNat) : (decodeMessage env packet m p frame walk).val.frame.scanComplete =
      !(old == byteAt env packet m.frameIdOffset) := by
  have hscan : (decodeMessage env packet m p frame walk).val.frame.scanComplete =
      ((decodeMessage env packet m p frame walk).val.parser.useAngle &&
        p.isNeedFrameSplit (byteAt env packet m.frameIdOffset)) := rfl
  rw [hscan, decodeMessage_useAngle, hangle, Bool.true_and, isNeedFrameSplit, hlast, parts_eq]

/-- The frame id is the last one of all the packets. -/
def EtParser.cutting (P : Parser (EtParser Corrections) Pt Fault) (h : Guards env message P) :
    CuttingParser (EtParser Corrections) Pt Fault where
  toGatedParser := gated P h
  marked _ := True
  same before packet := frameIdOf env message before == frameIdOf env message packet
  last p packet := p.lastFrameid = (frameIdOf env message packet).toNat
  steady p := p.useAngle = true
  cut p frame packet hangle hget hd _ := by
    obtain ⟨walk, body, hdecode, hbody⟩ := h.decodes p frame packet
    have hval : (P.decodePacket p frame packet).val = (decodeMessage env packet (message packet) p frame walk).val := by
      rw [hdecode, guarded_val, if_pos ⟨hget, hd⟩, hbody]
    simp only [gated, hval]
    exact ⟨decodeMessage_useAngle.trans hangle, rfl, fun before hlast => decodeMessage_cut hangle hlast⟩

end Et

namespace Udp43Parser

open UdpProtocol.V43

lemma countSeqNum_cut (env : Environment) (packet : UdpPacket) (h : Header) (g : GeneralParser) :
    (countSeqNum env packet h g).val.useAngle = g.useAngle ∧
    (countSeqNum env packet h g).val.lastAzimuth = g.lastAzimuth := by
  rw [countSeqNum]
  split_ifs
  · obtain ⟨_, _, _, heq⟩ := g.calPktLoss_frame env (readU32 env packet h.seqNumOffset).val
    simp only [val_bind, val_pure, heq]
    exact ⟨trivial, trivial⟩
  · exact ⟨rfl, rfl⟩

lemma calPktTimeLoss_cut (env : Environment) (g : GeneralParser) (t : UInt64) :
    (g.calPktTimeLoss env t).useAngle = g.useAngle ∧ (g.calPktTimeLoss env t).lastAzimuth = g.lastAzimuth := by
  obtain ⟨_, _, heq⟩ := g.calPktTimeLoss_frame env t
  rw [heq]
  exact ⟨rfl, rfl⟩

end Udp43Parser

section Columns

variable (env : Environment)

/-- The last bit of the frame id of a packet. -/
def Udp47Parser.parityAt (packet : UdpPacket) : UInt8 :=
  (V47.readFrameId env packet (V47.headerAt env packet).tailOffset).val % 2

variable {env} {Pt : Type} {frame : LidarDecodedFrame Pt} {packet : UdpPacket}

/-- The blocks of one packet have one frame id, and only the first one can part it from the packet before. -/
lemma Udp47Parser.finishBlocks_parity {p : Udp47Parser} {frameId : UInt8} {motorSpeed : UInt16}
    {width o n : ℕ} {lastFrameid lastAzimuth : ℤ} (useAngle : Bool) :
    let cut := (bodyReader env packet p frameId motorSpeed).finishBlocks width o
      ⟨useAngle, lastFrameid, lastAzimuth, false⟩ (n + 1)
    cut.useAngle = true ∧ cut.lastFrameid = (frameId % 2).toNat ∧
      cut.scanComplete = (useAngle && isNeedFrameSplit { p with lastFrameid := lastFrameid } (frameId % 2)) := by
  induction n with
  | zero => exact ⟨rfl, rfl, Bool.false_or _⟩
  | succ n ih =>
    obtain ⟨hangle, hlast, hscan⟩ := ih
    rw [BlockReader.finishBlocks]
    refine ⟨rfl, rfl, ?_⟩
    simp only [bodyReader] at hangle hlast hscan ⊢
    rw [hscan, hlast, Bool.or_eq_left_iff_imp]
    intro hagain
    simp [isNeedFrameSplit] at hagain

variable (env packet) in
lemma Udp47Parser.timed_useAngle (p : Udp47Parser) (h : V47.Header) :
    ((countSeqNum env packet h p.toGeneralParser).val.calPktTimeLoss env
      (V47.getMicroLidarTime env packet h.tailOffset).val).useAngle = p.useAngle := by
  obtain ⟨_, _, heq⟩ := (countSeqNum env packet h p.toGeneralParser).val.calPktTimeLoss_frame env
    (V47.getMicroLidarTime env packet h.tailOffset).val
  rw [heq]
  simp only [countSeqNum]
  split_ifs
  · obtain ⟨_, _, _, hloss⟩ := p.calPktLoss_frame env (readU32 env packet h.seqNumOffset).val
    simp only [val_bind, val_pure, hloss]
  · rfl

variable (frame) in
lemma Udp47Parser.decodeBody_cut {p : Udp47Parser} (hangle : p.useAngle = true)
    (hmarked : (V47.headerAt env packet).getBlockNum ≠ 0) :
    let d := (decodeBody env packet (V47.headerAt env packet) p frame).val
    d.parser.useAngle = true ∧ d.parser.lastFrameid = (parityAt env packet).toNat ∧
      d.frame.scanComplete = p.isNeedFrameSplit (parityAt env packet) := by
  obtain ⟨n, hn⟩ := Nat.exists_eq_succ_of_ne_zero hmarked
  have htimed := timed_useAngle env packet p (V47.headerAt env packet)
  simp only [decodeBody, val_bind, val_pure, BlockReader.walk_val, GeneralParser.tick, htimed, hangle, hn]
  obtain ⟨hangle', hlast, hscan⟩ := finishBlocks_parity true
  exact ⟨hangle', hlast, hscan.trans (Bool.true_and _)⟩

variable (env Pt) (Fault : Type) [Point Pt]

/-- A packet without a block keeps nothing. -/
def udp47Cutting (parserFaultMessage : UdpPacket → Fault → Fault) : CuttingParser Udp47Parser Pt Fault where
  toGatedParser := udp47Gated env Pt Fault parserFaultMessage
  marked packet := (V47.headerAt env packet).getBlockNum ≠ 0
  same before packet := Udp47Parser.parityAt env before == Udp47Parser.parityAt env packet
  last p packet := p.lastFrameid = (Udp47Parser.parityAt env packet).toNat
  steady p := p.useAngle = true
  cut p frame packet hangle hget hd hmarked := by
    have hval : (p.decodePacket env packet frame).val = _ := (p.decodePacket_val env packet frame).trans
      (if_pos ⟨hget, hd⟩)
    obtain ⟨hangle', hlast', hscan⟩ := Udp47Parser.decodeBody_cut frame hangle hmarked
    simp only [udp47Gated, udp47, hval]
    refine ⟨hangle', hlast', fun before hlast => ?_⟩
    rw [hscan, Udp47Parser.isNeedFrameSplit, hlast, parts_eq]

def udp72Cutting : CuttingParser Udp72Parser Pt Fault where
  toGatedParser := udp72Gated env Pt Fault
  marked _ := True
  same before packet := decide (Udp72Parser.columnIdAt env before ≤ Udp72Parser.columnIdAt env packet)
  last p packet := p.lastCloumnId = (Udp72Parser.columnIdAt env packet).toNat
  steady _ := True
  cut p frame packet _ hget hd _ := by
    have hval : (p.decodePacket env packet frame).val = _ := (Udp72Parser.decodePacket_val env packet p frame).trans
      (if_pos ⟨hget, hd⟩)
    simp only [udp72Gated, udp72, hval]
    refine ⟨trivial, rfl, fun before hlast => ?_⟩
    have hscan : (Udp72Parser.decodeBody env packet (V72.headerAt env packet) p frame).val.frame.scanComplete =
        p.isNeedFrameSplit (Udp72Parser.columnIdAt env packet) := rfl
    rw [hscan, Udp72Parser.isNeedFrameSplit, hlast, Bool.eq_iff_iff, Bool.not_eq_true', decide_eq_true_iff,
      decide_eq_false_iff_not, UInt16.not_le, Nat.cast_lt, UInt16.lt_iff_toNat_lt]

end Columns

end HesaiSdk.Parsing
