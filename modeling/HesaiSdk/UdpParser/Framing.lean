import HesaiSdk.UdpParser.Udp14Accesses
import HesaiSdk.UdpParser.Udp43Parser
import HesaiSdk.UdpParser.Udp61Parser
import HesaiSdk.UdpParser.UdpParser

namespace HesaiSdk.Parsing

open Library Library.BlockWalk Lidar UdpProtocol

/-- A parser that counts `packet_num` as `Run` expects it to, on the packets it is handed. -/
structure FramingParser (σ Pt Fault : Type) extends Parser σ Pt Fault where
  Received : UdpPacket → Prop
  counts : ∀ p frame packet, Received packet →
    let d := (decodePacket p frame packet).val
    d.ret ≠ 0 ∧ d.frame.packetNum = frame.packetNum ∨
    d.ret = 0 ∧ d.frame.packetNum = frame.packetNum + 1 ∨
    d.ret = 0 ∧ d.frame.packetNum = frame.packetNum ∧ d.frame.scanComplete = true ∧ packet.isTimeout = true
  acceptsAgain : ∀ p frame packet, Received packet →
    let d := (decodePacket p frame packet).val
    d.ret = 0 → d.frame.packetNum = frame.packetNum + 1 → ∀ frame',
    let d' := (decodePacket d.parser frame' packet).val
    d'.ret = 0 ∧ d'.frame.packetNum = frame'.packetNum + 1
  stampIndex : ∀ p frame packet,
    AllLog (Bounds.Allows { sensorTimestamp := (· = frame.packetNum) }) (decodePacket p frame packet)
  computeIndex : ∀ p frame packetIndex,
    AllLog (Bounds.Allows { sensorTimestamp := (· = packetIndex) }) (computeXYZI p frame packetIndex)

namespace UdpParser

variable {σ Pt Fault : Type} {env : Environment} {P : Parser σ Pt Fault} {F : FramingParser σ Pt Fault}
  {u : UdpParser σ} {frame : LidarDecodedFrame Pt} {packet : UdpPacket}

lemma decodePacket_val_of_short (h : packet.packetLen < 6) :
    (u.decodePacket env P frame packet).val = ⟨-1, u, { frame with scanComplete := false }⟩ := by
  rw [decodePacket, if_pos h, val_pure]

lemma decodePacket_val_of_some (env : Environment) (P : Parser σ Pt Fault) (frame : LidarDecodedFrame Pt)
    {p : σ} (hp : u.parser = some p) (h : ¬packet.packetLen < 6) :
    let d := (P.decodePacket p frame packet).val
    let e := (u.decodePacket env P frame packet).val
    e.ret = d.ret ∧ e.frame = d.frame ∧ e.parser.parser = some d.parser ∧
      e.parser.sourceType = u.sourceType := by
  rw [decodePacket, if_neg h]
  simp only [hp, val_bind, val_pure, val_ite, true_and]
  split_ifs
  · simp only [synchronize]
    split_ifs <;> exact ⟨rfl, rfl⟩
  · exact ⟨rfl, rfl⟩

lemma decodePacket_frame_cases (env : Environment) (P : Parser σ Pt Fault) (frame : LidarDecodedFrame Pt)
    (packet : UdpPacket) (hu : u.parser.isSome) :
    (u.decodePacket env P frame packet).val.frame = { frame with scanComplete := false } ∨
      ∃ p, (u.decodePacket env P frame packet).val.frame = (P.decodePacket p frame packet).val.frame := by
  obtain ⟨p, hp⟩ := Option.isSome_iff_exists.mp hu
  by_cases h : packet.packetLen < 6
  · rw [decodePacket_val_of_short h]
    exact Or.inl rfl
  · obtain ⟨-, hframe, -, -⟩ := decodePacket_val_of_some env P frame hp h
    exact Or.inr ⟨p, hframe⟩

structure Ready (sourceType : ℤ) (u : UdpParser σ) : Prop where
  parser : u.parser.isSome
  source : u.sourceType = sourceType

lemma Ready.decodePacket {sourceType : ℤ} (env : Environment) (F : FramingParser σ Pt Fault)
    (frame : LidarDecodedFrame Pt) (packet : UdpPacket) (hu : u.Ready sourceType) :
    (u.decodePacket env F.toParser frame packet).val.parser.Ready sourceType := by
  obtain ⟨p, hp⟩ := Option.isSome_iff_exists.mp hu.parser
  by_cases h : packet.packetLen < 6
  · rw [decodePacket_val_of_short h]
    exact hu
  · obtain ⟨-, -, he, hs⟩ := decodePacket_val_of_some env F.toParser frame hp h
    exact ⟨by rw [he]; rfl, hs.trans hu.source⟩

lemma decodePacket_counts (env : Environment) (frame : LidarDecodedFrame Pt)
    (hu : u.parser.isSome) (hr : F.Received packet) :
    let e := (u.decodePacket env F.toParser frame packet).val
    e.ret ≠ 0 ∧ e.frame.packetNum = frame.packetNum ∨
    (e.ret = 0 ∧ e.frame.packetNum = frame.packetNum + 1 ∧ ∀ frame',
      let e' := (e.parser.decodePacket env F.toParser frame' packet).val
      e'.ret = 0 ∧ e'.frame.packetNum = frame'.packetNum + 1) ∨
    e.ret = 0 ∧ e.frame.packetNum = frame.packetNum ∧ e.frame.scanComplete = true ∧ packet.isTimeout = true := by
  obtain ⟨p, hp⟩ := Option.isSome_iff_exists.mp hu
  by_cases h : packet.packetLen < 6
  · rw [decodePacket_val_of_short h]
    exact Or.inl ⟨show (-1 : ℤ) ≠ 0 by decide, rfl⟩
  · obtain ⟨hret, hframe, hparser, -⟩ := decodePacket_val_of_some env F.toParser frame hp h
    dsimp only
    rw [hret, hframe]
    rcases F.counts p frame packet hr with hc | ⟨h0, h1⟩ | hc
    · exact Or.inl hc
    · refine Or.inr (Or.inl ⟨h0, h1, fun frame' => ?_⟩)
      obtain ⟨hret', hframe', -, -⟩ := decodePacket_val_of_some env F.toParser frame' hparser h
      rw [hret', hframe']
      exact F.acceptsAgain p frame packet hr h0 h1 frame'
    · exact Or.inr (Or.inr hc)

lemma decodePacket_stampIndex (hr : F.Received packet) (ht : u.sourceType = 2 → packet.isTimeout = false)
    {P : ℕ → Prop} (hP : P frame.packetNum) (hsmall : frame.packetNum < kMaxPacketNumPerFrame) :
    AllLog (Bounds.Allows { sensorTimestamp := P }) (u.decodePacket env F.toParser frame packet) := by
  rw [decodePacket]
  split_ifs with h
  · exact allLog_pure _
  cases hp : u.parser with
  | none => exact allLog_pure _
  | some p =>
    have hstamp : AllLog (Bounds.Allows { sensorTimestamp := P }) (F.decodePacket p frame packet) := by
      rw [Bounds.allows_sensorTimestamp]
      intro i hi
      rw [Bounds.allows_sensorTimestamp.mp (F.stampIndex p frame packet) i hi]
      exact hP
    simp only [allLog_bind, allLog_pure, and_true]
    refine ⟨hstamp, ?_⟩
    split_ifs with hs
    · have h1 : (F.decodePacket p frame packet).val.frame.packetNum = frame.packetNum + 1 := by
        rcases F.counts p frame packet hr with hc | hc | hc
        · exact absurd hs.2.2 hc.1
        · exact hc.2
        · rw [ht hs.1] at hc
          exact absurd hc.2.2.2 (by decide)
      have hi : (frame.packetNum + 1 + (2 ^ 32 - 1)) % 2 ^ 32 = frame.packetNum := by
        simp only [kMaxPacketNumPerFrame] at hsmall
        omega
      simp only [synchronize, h1, hi]
      split_ifs <;> simp [Bounds.Allows, hP]
    · exact allLog_pure _

lemma computeXYZI_index {P : ℕ → Prop} {packetIndex : ℕ} (hP : P packetIndex) :
    AllLog (Bounds.Allows { sensorTimestamp := P }) (u.computeXYZI F.toParser frame packetIndex) := by
  rw [computeXYZI]
  cases u.parser with
  | none => exact allLog_pure _
  | some p =>
    rw [Bounds.allows_sensorTimestamp]
    intro i hi
    rw [Bounds.allows_sensorTimestamp.mp (F.computeIndex p frame packetIndex) i hi]
    exact hP

end UdpParser

section Parsers

variable (env : Environment) (Pt Fault : Type) [Point Pt]

def udp14Framing : FramingParser Udp14Parser Pt Fault where
  toParser := udp14 env Pt Fault
  Received _ := True
  counts p frame packet _ := by
    simp only [udp14, Udp14Parser.decodePacket_val]
    split
    · exact Or.inr (Or.inl ⟨rfl, rfl⟩)
    · exact Or.inl ⟨show (-1 : ℤ) ≠ 0 by decide, rfl⟩
  acceptsAgain p frame packet _ := by
    intro d hret _ frame'
    obtain ⟨hc, hd⟩ := Udp14Parser.decodePacket_ret.mp hret
    have hp : d.parser.getCorrectionFile = true := by
      rw [← hc]
      exact congrArg Calibration.getCorrectionFile Udp14Parser.decodePacket_calibration
    simp only [udp14, Udp14Parser.decodePacket_val]
    rw [if_pos ⟨hp, hd⟩]
    exact ⟨rfl, rfl⟩
  stampIndex p frame packet := by
    rw [udp14, Udp14Parser.allows_decodePacket trivial trivial]
    intro _ _
    rw [Udp14Parser.allows_decodeBody]
    exact ⟨⟨trivial, trivial, trivial, trivial⟩, Udp14Parser.bodyBytes_true, rfl, fun _ => trivial,
      fun _ _ _ _ => trivial⟩
  computeIndex _ _ _ := allLog_fillGrid _ _ _ fun _ => trivial

def udp61Framing : FramingParser GeneralParser Pt Fault where
  toParser := udp61 env Pt Fault
  Received _ := True
  counts p frame packet _ := by
    simp only [udp61, Udp61Parser.decodePacket_val]
    split
    · exact Or.inr (Or.inl ⟨rfl, rfl⟩)
    · exact Or.inl ⟨show (-1 : ℤ) ≠ 0 by decide, rfl⟩
  acceptsAgain p frame packet _ := by
    intro d hret _ frame'
    obtain ⟨hc, hd⟩ := Udp61Parser.decodePacket_ret.mp hret
    have hp : d.parser.getCorrectionFile = true := by
      rw [← hc]
      exact congrArg Calibration.getCorrectionFile Udp61Parser.decodePacket_calibration
    simp only [udp61, Udp61Parser.decodePacket_val]
    rw [if_pos ⟨hp, hd⟩]
    exact ⟨rfl, rfl⟩
  stampIndex p frame packet := by
    rw [udp61, Udp61Parser.allows_decodePacket]
    exact fun _ => ⟨rfl, fun _ _ _ _ => trivial⟩
  computeIndex _ _ _ := allLog_fillGrid _ _ _ fun _ => trivial

/-- The receive thread zeroes the first two bytes of its timeout markers. -/
def udp43Framing (parserFaultMessage : UdpPacket → Fault → Fault) : FramingParser Udp43Parser Pt Fault where
  toParser := udp43 env Pt Fault parserFaultMessage
  Received packet := packet.isTimeout = true → ¬Delimited env packet
  counts p frame packet hr := by
    by_cases he : Udp43Parser.EndsFrame packet p
    · simp only [udp43, Udp43Parser.decodePacket_of_endsFrame _ _ _ _ he, val_pure]
      exact Or.inr (Or.inr ⟨trivial, trivial, trivial, he.2.1⟩)
    · simp only [udp43, Udp43Parser.decodePacket_val _ _ _ _ he]
      split
      · exact Or.inr (Or.inl ⟨rfl, rfl⟩)
      · exact Or.inl ⟨show (-1 : ℤ) ≠ 0 by decide, rfl⟩
  acceptsAgain p frame packet hr := by
    intro d hret hnum frame'
    have he : ¬Udp43Parser.EndsFrame packet p := by
      intro he
      have hval : d.frame.packetNum = frame.packetNum :=
        congrArg (fun x => x.val.frame.packetNum) (Udp43Parser.decodePacket_of_endsFrame env packet p frame he)
      omega
    obtain ⟨hc, hd⟩ := (Udp43Parser.decodePacket_ret he).mp hret
    have hp : d.parser.getCorrectionFile = true := by
      rw [← hc]
      exact congrArg Calibration.getCorrectionFile Udp43Parser.decodePacket_calibration
    have he' : ¬Udp43Parser.EndsFrame packet d.parser := fun he => hr he.2.1 hd
    simp only [udp43, Udp43Parser.decodePacket_val _ _ _ _ he']
    rw [if_pos ⟨hp, hd⟩]
    exact ⟨rfl, rfl⟩
  stampIndex p frame packet := by
    rw [udp43, Udp43Parser.allows_decodePacket]
    exact fun _ _ => ⟨rfl, fun _ _ _ _ => trivial⟩
  computeIndex _ _ _ := allLog_fillGrid _ _ _ fun _ => trivial

end Parsers

end HesaiSdk.Parsing
