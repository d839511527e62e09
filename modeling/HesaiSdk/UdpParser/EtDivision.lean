import HesaiSdk.UdpParser.EtBody

/-! The divisors in decoding an ET packet are all the number of sequences in its header. -/

namespace HesaiSdk.Parsing

open Library Lidar UdpProtocol

def DividesBy (n : ℕ) : DecodeEvent → Prop
  | .divide d => d = n
  | _ => True

section Walks

variable {env : Environment} {packet : UdpPacket} {index : ℕ} {slots : ℕ → PointDecodeData}

lemma EtBody.dividesBy_walk {body : EtBody}
    (hunit : ∀ azimuth elevation o slot, AllLog (DividesBy body.seqNum) (body.writeUnit azimuth elevation o slot)) :
    AllLog (DividesBy body.seqNum) (body.walk env packet index slots) := by
  have hangle (o : ℕ) : AllLog (DividesBy body.seqNum) (readI16 env packet o) := allLog_readI16 fun _ => trivial
  have hper : AllLog (DividesBy body.seqNum) body.unitsPerSeq := by simp [unitsPerSeq, DividesBy]
  have hstep (azimuth elevation : ℚ) (u : ℕ) (c : EtCursor) :
      AllLog (DividesBy body.seqNum) (body.unitStep azimuth elevation u c) := by
    simp only [unitStep, allLog_bind, hunit, allLog_note, DividesBy, allLog_pure, and_self]
  have hseq (s : ℕ) (c : EtCursor) : AllLog (DividesBy body.seqNum) (body.seqStep env packet s c) := by
    simp only [seqStep, allLog_bind, hangle, hper, allLog_loop, hstep, allLog_pure, implies_true, and_self]
  have hblock (b : ℕ) (c : EtCursor) : AllLog (DividesBy body.seqNum) (body.blockStep env packet b c) := by
    simp only [blockStep, allLog_bind, allLog_loop, hseq, allLog_pure, implies_true, and_self]
  simp only [walk, allLog_bind, allLog_loop, hblock, allLog_pure, implies_true, and_self]

lemma Udp24Parser.dividesBy_walk (h : EtHeader) :
    AllLog (DividesBy h.getSeqNum) ((body env packet h).walk env packet index slots) := by
  refine EtBody.dividesBy_walk fun azimuth elevation o slot => ?_
  simp only [body, allLog_bind, allLog_readU8 (P := DividesBy _) fun _ => trivial,
    allLog_readU16 (P := DividesBy _) fun _ => trivial, allLog_pure, and_self]

lemma Udp25Parser.dividesBy_walk (h : EtHeader) : AllLog (DividesBy h.getSeqNum) (walk env packet h index slots) := by
  rw [walk, allLog_bind]
  refine ⟨allLog_readU8 fun _ => trivial, EtBody.dividesBy_walk fun azimuth elevation o slot => ?_⟩
  simp only [body, allLog_bind, allLog_readU8 (P := DividesBy _) fun _ => trivial,
    allLog_readU16 (P := DividesBy _) fun _ => trivial, allLog_pure, and_self]

lemma Udp26Parser.dividesBy_walk (h : V26.Header) : AllLog (DividesBy h.getSeqNum) (walk env packet h index slots) := by
  have hangle (o : ℕ) : AllLog (DividesBy h.getSeqNum) (readI16 env packet o) := allLog_readI16 fun _ => trivial
  have hbyte (o : ℕ) : AllLog (DividesBy h.getSeqNum) (readU8 env packet o) := allLog_readU8 fun _ => trivial
  have hword (o : ℕ) : AllLog (DividesBy h.getSeqNum) (readU16 env packet o) := allLog_readU16 fun _ => trivial
  have hper : AllLog (DividesBy h.getSeqNum) (unitsPerSeq h) := by simp [unitsPerSeq, DividesBy]
  have hstep1 (azimuth elevation : ℚ) (u : ℕ) (c : Cursor) :
      AllLog (DividesBy h.getSeqNum) (unitStep1 env packet azimuth elevation u c) := by
    simp only [unitStep1, writeUnit1, allLog_bind, hbyte, hword, allLog_note, DividesBy, allLog_pure, and_self]
  have hstep2 (azimuth elevation : ℚ) (u : ℕ) (c : Cursor) :
      AllLog (DividesBy h.getSeqNum) (unitStep2 env packet azimuth elevation u c) := by
    simp only [unitStep2, writeUnit2, allLog_bind, hbyte, hword, allLog_note, DividesBy, allLog_pure, and_self]
  have hseq (s : ℕ) (c : Cursor) : AllLog (DividesBy h.getSeqNum) (seqStep env packet h s c) := by
    simp only [seqStep, allLog_bind, hangle, hper, allLog_loop, hstep1, hstep2, allLog_pure, implies_true, and_self]
  simp only [walk, allLog_bind, hper, allLog_loop, hseq, allLog_pure, implies_true, and_self]

end Walks

namespace EtParser

variable {Corrections Pt : Type} {env : Environment} {packet : UdpPacket} {p : EtParser Corrections}
  {frame : LidarDecodedFrame Pt} {m : EtMessage}
  {walk : (ℕ → PointDecodeData) → Logged DecodeEvent (ℕ → PointDecodeData)}

lemma dividesBy_around : Around env packet m p frame (DividesBy m.seqNum) :=
  Around.of_byte (fun _ => trivial) rfl (fun _ => trivial) trivial

lemma divide_mem_log : .divide m.seqNum ∈ (decodeMessage env packet m p frame walk).log := by
  simp only [decodeMessage, log_bind, log_note]
  exact List.mem_append_left _ (List.mem_singleton_self _)

lemma divisors_iff {α : Type} {readHeader : Logged DecodeEvent α} {message : α → EtMessage}
    {walk : α → (ℕ → PointDecodeData) → Logged DecodeEvent (ℕ → PointDecodeData)}
    (hread : ∀ n, AllLog (DividesBy n) readHeader)
    (hwalk : AllLog (DividesBy (message readHeader.val).seqNum) (walk readHeader.val frame.pointData))
    (hc : p.getCorrectionFile = true) (hd : Delimited env packet) :
    (∀ d, .divide d ∈ (guarded env packet p frame
        (readHeader >>= fun h => decodeMessage env packet (message h) p frame (walk h))).log → d ≠ 0) ↔
      (message readHeader.val).seqNum ≠ 0 := by
  rw [guarded_log hc hd, log_bind]
  constructor
  · intro hall
    apply hall
    exact List.mem_append_right _ (List.mem_append_right _ divide_mem_log)
  · intro hn d hmem hzero
    have hdelimiter : AllLog (DividesBy (message readHeader.val).seqNum) (hasDelimiter env packet) :=
      allLog_hasDelimiter fun _ => trivial
    have hmessage : AllLog (DividesBy (message readHeader.val).seqNum) (decodeMessage env packet
        (message readHeader.val) p frame (walk readHeader.val)) := dividesBy_around.decodeMessage hwalk
    simp only [List.mem_append] at hmem
    have hdivides : DividesBy (message readHeader.val).seqNum (.divide d) := by
      rcases hmem with hmem | hmem | hmem
      · exact hdelimiter _ hmem
      · exact hread _ _ hmem
      · exact hmessage _ hmem
    exact hn (hdivides.symm.trans hzero)

end EtParser

section Headers

variable {env : Environment} {packet : UdpPacket} {n : ℕ}

lemma EtHeader.dividesBy_read : AllLog (DividesBy n) (EtHeader.read env packet) := by
  simp only [EtHeader.read, allLog_bind, allLog_readU8 (P := DividesBy n) fun _ => trivial, allLog_pure, and_self]

lemma V26.Header.dividesBy_read : AllLog (DividesBy n) (V26.Header.read env packet) := by
  simp only [V26.Header.read, allLog_bind, allLog_readU8 (P := DividesBy n) fun _ => trivial,
    allLog_readU16 (P := DividesBy n) fun _ => trivial, allLog_pure, and_self]

end Headers

/-- The byte at offset 11 is the number of sequences in all three headers. -/
theorem divisors_nonzero_iff {Corrections Pt : Type} (env : Environment) (packet : UdpPacket)
    (p : EtParser Corrections) (frame : LidarDecodedFrame Pt) (hc : p.getCorrectionFile = true)
    (hd : Delimited env packet) :
    ((∀ d, .divide d ∈ (Udp24Parser.decodePacket env packet p frame).log → d ≠ 0) ↔ byteAt env packet 11 ≠ 0) ∧
    ((∀ d, .divide d ∈ (Udp25Parser.decodePacket env packet p frame).log → d ≠ 0) ↔ byteAt env packet 11 ≠ 0) ∧
    ((∀ d, .divide d ∈ (Udp26Parser.decodePacket env packet p frame).log → d ≠ 0) ↔ byteAt env packet 11 ≠ 0) := by
  have hbyte : (byteAt env packet 11).toNat ≠ 0 ↔ byteAt env packet 11 ≠ 0 := by
    rw [ne_eq, ne_eq, ← UInt8.toNat_inj]
    rfl
  refine ⟨?_, ?_, ?_⟩
  · exact (EtParser.divisors_iff (fun _ => EtHeader.dividesBy_read) (Udp24Parser.dividesBy_walk _) hc hd).trans hbyte
  · exact (EtParser.divisors_iff (fun _ => EtHeader.dividesBy_read) (Udp25Parser.dividesBy_walk _) hc hd).trans hbyte
  · exact (EtParser.divisors_iff (fun _ => V26.Header.dividesBy_read) (Udp26Parser.dividesBy_walk _) hc hd).trans hbyte

def loadedEtParser : EtParser Unit := { (default : EtParser Unit) with getCorrectionFile := true }

def etPacket (seqNum : UInt8) : UdpPacket :=
  UdpPacket.ofBytes [0xEE, 0xFF, 2, 5, 0, 0, 64, 1, 1, 5, 1, seqNum, 0]

theorem divisors_nonzero_eight : byteAt default (etPacket 8) 11 ≠ 0 ∧
    ∀ d, .divide d ∈ (Udp25Parser.decodePacket default (etPacket 8) loadedEtParser
      (default : LidarDecodedFrame ℕ)).log → d ≠ 0 := by
  have hseq : byteAt default (etPacket 8) 11 ≠ 0 := by decide
  exact ⟨hseq, (divisors_nonzero_iff default (etPacket 8) loadedEtParser default rfl (by decide)).2.1.mpr hseq⟩

theorem divisors_nonzero_none : ¬∀ (env : Environment) (packet : UdpPacket) (p : EtParser Unit)
    (frame : LidarDecodedFrame ℕ), p.getCorrectionFile = true → 6 ≤ packet.packetLen → Delimited env packet →
      (∀ d, .divide d ∈ (Udp24Parser.decodePacket env packet p frame).log → d ≠ 0) ∧
      (∀ d, .divide d ∈ (Udp25Parser.decodePacket env packet p frame).log → d ≠ 0) ∧
      (∀ d, .divide d ∈ (Udp26Parser.decodePacket env packet p frame).log → d ≠ 0) := by
  intro h
  have h25 := (h default (etPacket 0) loadedEtParser default rfl (by decide) (by decide)).2.1
  have hseq := (EtParser.divisors_iff (fun _ => EtHeader.dividesBy_read) (Udp25Parser.dividesBy_walk _) rfl
    (by decide)).mp h25
  exact hseq (by decide)

end HesaiSdk.Parsing
