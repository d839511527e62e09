import HesaiSdk.UdpParser.Udp72Parser

/-! Where decoding a column of the FT120 reads: its packet and the tables of its calibration. -/

namespace HesaiSdk.Parsing.Udp72Parser

open Library Library.BlockWalk Lidar UdpProtocol UdpProtocol.V72

def InsidePacket : Bounds := { byte := (· < kBufSize) }

def InsideTables : DecodeEvent → Prop
  | .correction i columnId => (i : ℤ) < CHANNEL_MAX ∧ (columnId : ℤ) < COLUMN_MAX
  | _ => True

def AccessInside (e : DecodeEvent) : Prop := InsidePacket.Allows e ∧ InsideTables e

lemma allLog_accessInside {α : Type} {x : Logged DecodeEvent α} :
    AllLog AccessInside x ↔ AllLog InsidePacket.Allows x ∧ AllLog InsideTables x :=
  forall₂_and

section Body

variable {env : Environment} {packet : UdpPacket} {h : Header} {Pt : Type} {p : Udp72Parser}
  {frame : LidarDecodedFrame Pt} {o : ℕ}

lemma timeBytes_of_lt {tmYear : UInt8 → Option ℤ} {utc timestamp n : ℕ} (hutc : utc + 6 ≤ n)
    (hts : timestamp + 4 ≤ n) : TimeBytes env packet tmYear utc timestamp (· < n) := by
  rw [TimeBytes]
  split_ifs
  · omega
  · exact ⟨fun i hi => Nat.lt_of_lt_of_le (Nat.add_lt_add_left hi utc) hutc,
      fun i hi => Nat.lt_of_lt_of_le (Nat.add_lt_add_left hi timestamp) hts⟩
  · refine ⟨?_, fun i hi => ?_, fun i hi => Nat.lt_of_lt_of_le (Nat.add_lt_add_left hi timestamp) hts⟩
    · omega
    · omega

lemma insidePacket_decodeBody (hchannels : h.getChannelNum ≤ 256) :
    AllLog InsidePacket.Allows (decodeBody env packet h p frame) := by
  have htail : h.tailOffset + 29 ≤ kBufSize := by
    rw [Header.tailOffset, Header.bodyOffset, sizeofPreHeader, sizeofHeader, sizeofBodyChnUnit, kBufSize]
    omega
  have hbyte {n i : ℕ} (hi : i < n) {o : ℕ} (ho : o + n ≤ kBufSize) : InsidePacket.byte (o + i) := by
    change o + i < kBufSize
    omega
  have htime : TimeBytes env packet V61.tmYear (h.tailOffset + 14) (h.tailOffset + 20) InsidePacket.byte :=
    timeBytes_of_lt (by omega) (by omega)
  simp only [decodeBody, allLog_bind, allLog_pure, allows_storeSensorTimestamp, getMicroLidarTime,
    allows_getMicroLidarTimeU64, readSequenceNum, allows_readU32, readColumnId, allows_readU16, allLog_note]
  refine ⟨⟨fun _ => htime, trivial⟩, fun i hi => hbyte hi (by omega), trivial, htime,
    fun i hi => hbyte hi (by omega), ?_, trivial⟩
  rw [BlockReader.allLog_walk]
  intro b hb
  refine ⟨allLog_pure _, fun j hj => ⟨?_, trivial⟩⟩
  obtain rfl : b = 0 := Nat.lt_one_iff.mp hb
  have hunit : Header.bodyOffset + sizeofBodyChnUnit * j + 3 ≤ kBufSize := by
    rw [Header.bodyOffset, sizeofPreHeader, sizeofHeader, sizeofBodyChnUnit, kBufSize]
    omega
  simp only [BlockReader.unitAt, BlockReader.blockOffset, bodyReader, getReflectivity, getDistance, allLog_bind,
    allLog_note, allows_readU8, allows_readU16, allLog_pure, Nat.mul_zero, Nat.add_zero]
  refine ⟨trivial, hbyte (by decide : 2 < 3) hunit, fun i hi => hbyte hi (by omega), trivial⟩

lemma insideTables_byte (o : ℕ) : InsideTables (.byte o) := trivial

lemma insideTables_decodeBody : AllLog InsideTables (decodeBody env packet h p frame) ↔
    ∀ i < h.getChannelNum, i < 256 ∧ (readColumnId env packet h.tailOffset).val.toNat < 384 := by
  have htime : AllLog InsideTables (getMicroLidarTime env packet h.tailOffset) :=
    allLog_getMicroLidarTimeU64 insideTables_byte
  have hstamp : AllLog InsideTables
      (storeSensorTimestamp frame packet.recvTimestamp (getMicroLidarTime env packet h.tailOffset)) := by
    rw [storeSensorTimestamp, allLog_bind, allLog_bind]
    refine ⟨?_, allLog_note.mpr trivial, allLog_pure _⟩
    split_ifs
    · exact htime
    · exact allLog_pure _
  have hunit (columnId : UInt16) (j o : ℕ) (slot : PointDecodeData) :
      AllLog InsideTables ((bodyReader env packet p columnId).writeUnit () j o slot) ↔
        j < 256 ∧ columnId.toNat < 384 := by
    simp only [bodyReader, getReflectivity, getDistance, allLog_bind, allLog_note, allLog_pure,
      allLog_readU8 insideTables_byte, allLog_readU16 insideTables_byte, and_true]
    simp only [InsideTables, CHANNEL_MAX, COLUMN_MAX]
    omega
  simp only [decodeBody, allLog_bind, allLog_pure, hstamp, htime, readSequenceNum,
    allLog_readU32 insideTables_byte, allLog_note, BlockReader.allLog_walk, BlockReader.unitAt,
    hunit, true_and, and_true]
  have hcolumn : AllLog InsideTables (readColumnId env packet h.tailOffset) := allLog_readU16 insideTables_byte
  constructor
  · rintro ⟨-, -, hblock⟩ i hi
    exact ((hblock 0 Nat.one_pos).2 i hi).1
  · intro hall
    exact ⟨trivial, hcolumn, fun b _ => ⟨allLog_pure _, fun j hj => ⟨hall j hj, trivial⟩⟩⟩

end Body

def columnIdAt (env : Environment) (packet : UdpPacket) : UInt16 :=
  (readColumnId env packet (headerAt env packet).tailOffset).val

lemma accessInside_readHeader {env : Environment} {packet : UdpPacket} :
    AllLog AccessInside (readHeader env packet) := by
  have hbyte : ∀ o < 17, InsidePacket.byte o := fun o ho => ho.trans (by decide)
  rw [allLog_accessInside]
  constructor
  · simp only [readHeader, allLog_bind, allLog_pure, allows_readU8, allows_readU16]
    exact ⟨hbyte 13 (by decide), fun i hi => hbyte (15 + i) (by omega), trivial⟩
  · simp only [readHeader, allLog_bind, allLog_pure, allLog_readU8 insideTables_byte,
      allLog_readU16 insideTables_byte, and_self]

lemma accessInside_hasDelimiter {env : Environment} {packet : UdpPacket} :
    AllLog AccessInside (hasDelimiter env packet) := by
  rw [allLog_accessInside]
  exact ⟨allows_hasDelimiter (by decide : 0 < kBufSize) (by decide : 1 < kBufSize),
    allLog_hasDelimiter insideTables_byte⟩

lemma accessInside_decodePacket {Pt : Type} {env : Environment} {packet : UdpPacket} {p : Udp72Parser}
    {frame : LidarDecodedFrame Pt} (hret : (p.decodePacket env packet frame).val.ret = 0) :
    AllLog AccessInside (p.decodePacket env packet frame) ↔
      AllLog InsidePacket.Allows (decodeBody env packet (headerAt env packet) p frame) ∧
        ∀ i < (headerAt env packet).getChannelNum, i < 256 ∧ (columnIdAt env packet).toNat < 384 := by
  obtain ⟨hfile, hdelimited⟩ := decodePacket_ret.mp hret
  rw [decodePacket, if_neg (by rw [hfile]; decide), afterDelimiter, allLog_bind, hasDelimiter_val,
    decide_eq_true hdelimited, if_neg (by decide), allLog_bind, and_iff_right accessInside_hasDelimiter,
    and_iff_right accessInside_readHeader, allLog_accessInside, insideTables_decodeBody]
  rfl

/-- An accepted packet stays within its buffer and within the tables exactly if it has at most 256 channels and,
where it has any, a column below 384. -/
theorem decodePacket_accessInside_iff {Pt : Type} (env : Environment) (packet : UdpPacket) (p : Udp72Parser)
    (frame : LidarDecodedFrame Pt) (hret : (p.decodePacket env packet frame).val.ret = 0) :
    AllLog AccessInside (p.decodePacket env packet frame) ↔
      (headerAt env packet).getChannelNum ≤ 256 ∧
        (0 < (headerAt env packet).getChannelNum → (columnIdAt env packet).toNat < 384) := by
  rw [accessInside_decodePacket hret]
  constructor
  · rintro ⟨-, htables⟩
    constructor
    · by_contra hmany
      exact absurd (htables 256 (Nat.lt_of_not_le hmany)).1 (Nat.lt_irrefl 256)
    · intro hpos
      exact (htables 0 hpos).2
  · rintro ⟨hchannels, hcolumn⟩
    exact ⟨insidePacket_decodeBody hchannels,
      fun i hi => ⟨Nat.lt_of_lt_of_le hi hchannels, hcolumn (Nat.zero_lt_of_lt hi)⟩⟩

section Column384

def emptyCalibration : List UInt8 := [0xEE, 0xFF, 0, 0, 0, 0, 0, 0, 1] ++ List.replicate 32 0

def columnPacket (low high : UInt8) : UdpPacket :=
  UdpPacket.ofBytes ([0xEE, 0xFF] ++ List.replicate 13 0 ++ [1, 0] ++ List.replicate 20 0 ++ [low, high] ++
    List.replicate 20 0)

theorem decodePacket_accessInside_383 : ∃ q : Udp72Parser,
    (default : Udp72Parser).loadCorrectionString default emptyCalibration = some (q, 0) ∧
    (q.decodePacket default (columnPacket 0x7F 1) (default : LidarDecodedFrame LidarPointXYZICRT)).val.ret = 0 ∧
    AllLog AccessInside
      (q.decodePacket default (columnPacket 0x7F 1) (default : LidarDecodedFrame LidarPointXYZICRT)) := by
  refine ⟨_, rfl, ?_, ?_⟩
  · exact decodePacket_ret.mpr ⟨rfl, rfl, rfl⟩
  · exact (decodePacket_accessInside_iff default (columnPacket 0x7F 1) _ _
      (decodePacket_ret.mpr ⟨rfl, rfl, rfl⟩)).mpr ⟨by decide, fun _ => by decide⟩

theorem decodePacket_outside_384 : ∃ q : Udp72Parser,
    (default : Udp72Parser).loadCorrectionString default emptyCalibration = some (q, 0) ∧
    (q.decodePacket default (columnPacket 0x80 1) (default : LidarDecodedFrame LidarPointXYZICRT)).val.ret = 0 ∧
    ¬AllLog AccessInside
      (q.decodePacket default (columnPacket 0x80 1) (default : LidarDecodedFrame LidarPointXYZICRT)) := by
  refine ⟨_, rfl, ?_, ?_⟩
  · exact decodePacket_ret.mpr ⟨rfl, rfl, rfl⟩
  · intro hinside
    have hcolumn := (((accessInside_decodePacket (decodePacket_ret.mpr ⟨rfl, rfl, rfl⟩)).mp hinside).2 0
      (by decide)).2
    exact absurd hcolumn (by decide)

end Column384

end HesaiSdk.Parsing.Udp72Parser
