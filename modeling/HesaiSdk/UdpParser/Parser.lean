import HesaiSdk.UdpParser.GeneralParser

namespace HesaiSdk.Parsing

open Library Lidar UdpProtocol

structure Decoded (σ Pt : Type) where
  ret : ℤ
  parser : σ
  frame : LidarDecodedFrame Pt

inductive ParserType where
  | udpP40
  | udpP64
  | udp14
  | udp24
  | udp25
  | udp26
  | udp31
  | udp32
  | udp43
  | udp47
  | udp61
  | udp72
deriving DecidableEq

/-- The parser classes: their constructors and virtual functions. `computeXYZI` gives the new
`points`. -/
structure Parser (σ Pt Fault : Type) where
  new : ParserType → σ
  decodePacket : σ → LidarDecodedFrame Pt → UdpPacket → Logged DecodeEvent (Decoded σ Pt)
  computeXYZI : σ → LidarDecodedFrame Pt → ℕ → Logged DecodeEvent (ℕ → Pt)
  parserFaultMessage : σ → UdpPacket → Fault → Fault

section Decoding

variable {σ Pt : Type}

def reject (parser : σ) (frame : LidarDecodedFrame Pt) : Logged DecodeEvent (Decoded σ Pt) :=
  pure ⟨-1, parser, frame⟩

def storeSensorTimestamp (frame : LidarDecodedFrame Pt) (recvTimestamp : UInt64)
    (lidarTime : Logged DecodeEvent UInt64) : Logged DecodeEvent (LidarDecodedFrame Pt) := do
  let time ← (if frame.useTimestampType = 0 then lidarTime else pure recvTimestamp)
  note (.sensorTimestamp frame.packetNum)
  pure { frame with sensorTimestamp := Function.update frame.sensorTimestamp frame.packetNum time }

def afterDelimiter (env : Environment) (packet : UdpPacket) (parser : σ) (frame : LidarDecodedFrame Pt)
    (body : Logged DecodeEvent (Decoded σ Pt)) : Logged DecodeEvent (Decoded σ Pt) := do
  let delimiter ← hasDelimiter env packet
  if delimiter = false then reject parser frame else body

section Delimiter

variable {env : Environment} {packet : UdpPacket} {parser : σ} {frame : LidarDecodedFrame Pt}
  {body : Logged DecodeEvent (Decoded σ Pt)} {bounds : Bounds}

def Delimited (env : Environment) (packet : UdpPacket) : Prop :=
  byteAt env packet 0 = 0xEE ∧ byteAt env packet 1 = 0xFF

instance : Decidable (Delimited env packet) := inferInstanceAs (Decidable (_ ∧ _))

lemma hasDelimiter_val : (hasDelimiter env packet).val = decide (Delimited env packet) := by
  rw [hasDelimiter, val_bind, readU8_val]
  by_cases h0 : byteAt env packet 0 = 0xEE
  · by_cases h1 : byteAt env packet 1 = 0xFF <;> simp [h0, h1, Delimited]
  · simp [h0, Delimited]

lemma allows_hasDelimiter (h0 : bounds.byte 0) (h1 : bounds.byte 1) :
    AllLog bounds.Allows (hasDelimiter env packet) := by
  rw [hasDelimiter, allLog_bind, allows_readU8]
  refine ⟨h0, ?_⟩
  split
  · exact allLog_pure _
  · exact allLog_bind.mpr ⟨allows_readU8.mpr h1, allLog_pure _⟩

lemma afterDelimiter_val : (afterDelimiter env packet parser frame body).val =
    if Delimited env packet then body.val else ⟨-1, parser, frame⟩ := by
  rw [afterDelimiter, val_bind, hasDelimiter_val]
  by_cases hd : Delimited env packet
  · simp [hd]
  · simp [hd, reject]

lemma allows_afterDelimiter (h0 : bounds.byte 0) (h1 : bounds.byte 1) :
    AllLog bounds.Allows (afterDelimiter env packet parser frame body) ↔
      (Delimited env packet → AllLog bounds.Allows body) := by
  rw [afterDelimiter, allLog_bind, hasDelimiter_val]
  by_cases hd : Delimited env packet
  · simp [hd, allows_hasDelimiter h0 h1]
  · simp [hd, allows_hasDelimiter h0 h1, reject]

end Delimiter

section Tests

variable {env : Environment} {packet : UdpPacket} {parser : σ} {frame : LidarDecodedFrame Pt}
  {getCorrectionFile : Bool} {body : Logged DecodeEvent (Decoded σ Pt)}

lemma rejected_val {rest : Logged DecodeEvent (Decoded σ Pt)} (hfile : getCorrectionFile = false) :
    (if getCorrectionFile = false then reject parser frame else rest).val = ⟨-1, parser, frame⟩ :=
  congrArg Logged.val (if_pos hfile)

lemma afterTests_val :
    (if getCorrectionFile = false then reject parser frame else afterDelimiter env packet parser frame body).val =
      if getCorrectionFile = true ∧ Delimited env packet then body.val else ⟨-1, parser, frame⟩ := by
  cases getCorrectionFile with
  | false => rfl
  | true =>
    rw [if_neg (by decide), afterDelimiter_val]
    simp only [true_and]

lemma afterTests_ret (hbody : body.val.ret = 0) :
    (if getCorrectionFile = false then reject parser frame
      else afterDelimiter env packet parser frame body).val.ret = 0 ↔
      getCorrectionFile = true ∧ Delimited env packet := by
  rw [afterTests_val]
  split_ifs with h
  · exact iff_of_true hbody h
  · exact iff_of_false (by decide : ¬(-1 : ℤ) = 0) h

lemma afterTests_of_accepted
    (hret : (if getCorrectionFile = false then reject parser frame
      else afterDelimiter env packet parser frame body).val.ret = 0) :
    (if getCorrectionFile = false then reject parser frame
      else afterDelimiter env packet parser frame body).val = body.val := by
  rw [afterTests_val] at hret ⊢
  split_ifs at hret ⊢ with htests
  · rfl
  · exact absurd (show (-1 : ℤ) = 0 from hret) (by decide)

lemma allows_afterTests {bounds : Bounds} (h0 : bounds.byte 0) (h1 : bounds.byte 1) :
    AllLog bounds.Allows (if getCorrectionFile = false then reject parser frame
        else afterDelimiter env packet parser frame body) ↔
      (getCorrectionFile = true ∧ Delimited env packet → AllLog bounds.Allows body) := by
  cases getCorrectionFile with
  | false => exact iff_of_true (allLog_pure _) fun h => absurd h.1 (by decide)
  | true => rw [if_neg (by decide), allows_afterDelimiter h0 h1, and_iff_right rfl]

end Tests

lemma storeSensorTimestamp_val (frame : LidarDecodedFrame Pt) (recvTimestamp : UInt64)
    (lidarTime : Logged DecodeEvent UInt64) :
    (storeSensorTimestamp frame recvTimestamp lidarTime).val =
      { frame with
        sensorTimestamp := Function.update frame.sensorTimestamp frame.packetNum
          (if frame.useTimestampType = 0 then lidarTime.val else recvTimestamp) } := by
  simp [storeSensorTimestamp]

lemma allows_storeSensorTimestamp {bounds : Bounds} {frame : LidarDecodedFrame Pt} {recvTimestamp : UInt64}
    {lidarTime : Logged DecodeEvent UInt64} :
    AllLog bounds.Allows (storeSensorTimestamp frame recvTimestamp lidarTime) ↔
      (frame.useTimestampType = 0 → AllLog bounds.Allows lidarTime) ∧
        bounds.sensorTimestamp frame.packetNum := by
  rw [storeSensorTimestamp, allLog_bind, allLog_bind, allLog_note]
  by_cases hu : frame.useTimestampType = 0 <;> simp [hu, Bounds.Allows]

end Decoding

end HesaiSdk.Parsing
