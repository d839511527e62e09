import HesaiSdk.UdpParser.Udp14Parser

/-! The section values of the firetime table that decoding a packet of the Pandar128 looks up. -/

namespace HesaiSdk.Parsing.Udp14Parser

open Library Library.BlockWalk Lidar UdpProtocol UdpProtocol.V14

/-- The table has 8 sections for each of 128 lasers; a shift by a negative amount is undefined. -/
def LookupInside : DecodeEvent → Prop
  | .firetime laserId sectionId => laserId < 128 ∧ sectionId < 8
  | .angleShift bits => 0 ≤ bits
  | _ => True

/-- The section of an operation mode; the other modes look nothing up. -/
def sectionIndex (optMode angleState : UInt8) : Option ℕ :=
  if optMode = 0 then some angleState.toNat
  else if optMode = 2 then some (4 + angleState.toNat)
  else if optMode = 3 then some (6 + angleState.toNat)
  else none

section Reading

variable {env : Environment} {packet : UdpPacket} {o : ℕ}

lemma lookupInside_byte (o : ℕ) : LookupInside (.byte o) := trivial

@[simp] lemma inside_readU8 : AllLog LookupInside (readU8 env packet o) := allLog_readU8 lookupInside_byte

@[simp] lemma inside_readU16 : AllLog LookupInside (readU16 env packet o) := allLog_readU16 lookupInside_byte

@[simp] lemma inside_readU32 : AllLog LookupInside (readU32 env packet o) := allLog_readU32 lookupInside_byte

@[simp] lemma inside_readU32Big : AllLog LookupInside (readU32Big env packet o) := allLog_readU32Big lookupInside_byte

lemma inside_readHeader : AllLog LookupInside (readHeader env packet) := by
  simp [readHeader]

lemma inside_getMicroLidarTime : AllLog LookupInside (getMicroLidarTime env packet o) :=
  allLog_getMicroLidarTimeU64 lookupInside_byte

lemma inside_storeSensorTimestamp {Pt : Type} {frame : LidarDecodedFrame Pt} {recvTimestamp : UInt64} :
    AllLog LookupInside (storeSensorTimestamp frame recvTimestamp (getMicroLidarTime env packet o)) := by
  rw [storeSensorTimestamp, allLog_bind, allLog_bind]
  refine ⟨?_, allLog_note.mpr trivial, allLog_pure _⟩
  split
  · exact inside_getMicroLidarTime
  · exact allLog_pure _

variable {h : Header} {g : GeneralParser}

lemma inside_lidarState : AllLog LookupInside (lidarState env packet h) := by
  rw [lidarState]
  split <;> simp [getLidarState]

lemma inside_countSeqNum : AllLog LookupInside (countSeqNum env packet h g) := by
  rw [countSeqNum]
  split <;> simp [LookupInside]

lemma inside_updateMonitorInfo : AllLog LookupInside (updateMonitorInfo env packet h g) := by
  rw [updateMonitorInfo]
  split <;> simp

lemma inside_readChnUnit {withConfidence : Bool} : AllLog LookupInside (readChnUnit env packet withConfidence o) := by
  rw [readChnUnit, allLog_bind, allLog_bind]
  refine ⟨inside_readU16, inside_readU8, ?_⟩
  split <;> simp

end Reading

section Lookup

variable {env : Environment} {packet : UdpPacket} {h : Header} {p : Udp14Parser} {g : GeneralParser} {j b o : ℕ}
  {optMode : UInt8}

lemma inside_getFiretimesCorrection {speed dist : ℚ} {angleState : UInt8} :
    AllLog LookupInside (p.getFiretimesCorrection j speed optMode angleState dist) ↔
      ∀ idx, sectionIndex optMode angleState = some idx → j < 128 ∧ idx < 8 := by
  simp only [getFiretimesCorrection, sectionIndex]
  split_ifs <;> simp [LookupInside]

lemma inside_blockAzimuth {head : BlockHead} {unit : ChnUnit} :
    AllLog LookupInside (p.blockAzimuth h g optMode head j unit) ↔ (p.getFiretimeFile = true →
      ∀ idx, sectionIndex optMode head.angleState = some idx → j < 128 ∧ idx < 8) := by
  rw [blockAzimuth]
  cases p.getFiretimeFile with
  | false => simp
  | true => simp [inside_getFiretimesCorrection]

lemma inside_getAngleState : AllLog LookupInside (getAngleState env packet o b) ↔ b ≤ 7 := by
  simp only [getAngleState, allLog_bind, inside_readU16, allLog_note, LookupInside, allLog_pure, true_and, and_true]
  omega

lemma getAngleState_lt : (getAngleState env packet o b).val.toNat < 4 := by
  simp only [getAngleState, val_bind, val_pure]
  rw [Nat.toUInt8, UInt8.toNat_ofNat']
  omega

def angleStateAt (env : Environment) (packet : UdpPacket) (b : ℕ) : UInt8 :=
  (getAngleState env packet (headerAt env packet).tailOffset b).val

def optModeAt (env : Environment) (packet : UdpPacket) : UInt8 :=
  getOperationMode (readU8 env packet ((headerAt env packet).tailOffset + 11)).val

lemma inside_walk {index : ℕ} {slots : ℕ → PointDecodeData} {a : UInt16} :
    AllLog LookupInside ((p.bodyReader env packet h g optMode).walk h.getLaserNum h.getBlockNum
      (⟨Header.bodyOffset, index, slots⟩, a)) ↔
      ∀ b < h.getBlockNum, b ≤ 7 ∧ ∀ j < h.getLaserNum, p.getFiretimeFile = true →
        ∀ idx, sectionIndex optMode (getAngleState env packet h.tailOffset b).val = some idx → j < 128 ∧ idx < 8 := by
  rw [BlockReader.allLog_walk]
  refine forall₂_congr fun b _ => ?_
  have hhead (o : ℕ) : AllLog LookupInside ((p.bodyReader env packet h g optMode).readHead b o) ↔ b ≤ 7 := by
    simp only [bodyReader, allLog_bind, inside_getAngleState, inside_readU16, allLog_pure, and_true]
  rw [hhead]
  refine and_congr_right fun _ => forall₂_congr fun j _ => ?_
  simp only [BlockReader.unitAt, BlockReader.headAt, bodyReader, allLog_bind, inside_readChnUnit, inside_blockAzimuth,
    allLog_pure, LookupInside, val_bind, val_pure, true_and, and_true]

end Lookup

/-- What keeps the lookups in the table: at most 8 blocks, and with a firetime table loaded at most 128 lasers in the
modes that use it, and in mode 3 no block with an angle state above 1. -/
structure FiretimesInside (env : Environment) (packet : UdpPacket) (p : Udp14Parser) : Prop where
  blocks : (headerAt env packet).getBlockNum ≤ 8
  lasers : p.getFiretimeFile = true → optModeAt env packet ∈ [0, 2, 3] → 0 < (headerAt env packet).getBlockNum →
    (headerAt env packet).getLaserNum ≤ 128
  sections : p.getFiretimeFile = true → optModeAt env packet = 3 → 0 < (headerAt env packet).getLaserNum →
    ∀ b < (headerAt env packet).getBlockNum, angleStateAt env packet b < 2

section Packet

variable {env : Environment} {packet : UdpPacket} {p : Udp14Parser} {Pt : Type} {frame : LidarDecodedFrame Pt}

lemma inside_decodePacket (hc : p.getCorrectionFile = true) (hd : Delimited env packet) :
    AllLog LookupInside (p.decodePacket env packet frame) ↔ ∀ b < (headerAt env packet).getBlockNum, b ≤ 7 ∧
      ∀ j < (headerAt env packet).getLaserNum, p.getFiretimeFile = true →
        ∀ idx, sectionIndex (optModeAt env packet) (angleStateAt env packet b) = some idx → j < 128 ∧ idx < 8 := by
  rw [decodePacket, if_neg (by simp [hc]), afterDelimiter, allLog_bind, hasDelimiter_val, decide_eq_true hd,
    if_neg (by decide), allLog_bind]
  simp only [decodeBody, allLog_bind, allLog_hasDelimiter lookupInside_byte, inside_readHeader, inside_lidarState,
    inside_countSeqNum, inside_storeSensorTimestamp, inside_getMicroLidarTime, inside_readU16, inside_readU8,
    inside_updateMonitorInfo, inside_walk, allLog_pure, true_and, and_true]
  exact Iff.rfl

lemma sectionIndex_eq_some {optMode angleState : UInt8} {idx : ℕ} (h : sectionIndex optMode angleState = some idx)
    (hstate : angleState.toNat < 4) : optMode ∈ [0, 2, 3] ∧ (idx < 8 ↔ optMode = 3 → angleState < 2) := by
  rw [sectionIndex] at h
  have hlt : angleState < 2 ↔ angleState.toNat < 2 := UInt8.lt_iff_toNat_lt
  split_ifs at h with h0 h2 h3
  · obtain rfl := Option.some.inj h
    rw [h0]
    exact ⟨by decide, fun _ h3 => absurd h3 (by decide), fun _ => by omega⟩
  · obtain rfl := Option.some.inj h
    rw [h2]
    exact ⟨by decide, fun _ h3 => absurd h3 (by decide), fun _ => by omega⟩
  · obtain rfl := Option.some.inj h
    rw [h3, hlt]
    exact ⟨by decide, fun h _ => by omega, fun h => by have := h rfl; omega⟩

lemma sectionIndex_isSome (optMode angleState : UInt8) (h : optMode ∈ [0, 2, 3]) :
    ∃ idx, sectionIndex optMode angleState = some idx := by
  simp only [List.mem_cons, List.not_mem_nil, or_false] at h
  rcases h with rfl | rfl | rfl
  · exact ⟨_, rfl⟩
  · exact ⟨_, rfl⟩
  · exact ⟨_, rfl⟩

lemma firetimesInside_iff (env : Environment) (packet : UdpPacket) (p : Udp14Parser) :
    FiretimesInside env packet p ↔ ∀ b < (headerAt env packet).getBlockNum, b ≤ 7 ∧
      ∀ j < (headerAt env packet).getLaserNum, p.getFiretimeFile = true →
        ∀ idx, sectionIndex (optModeAt env packet) (angleStateAt env packet b) = some idx → j < 128 ∧ idx < 8 := by
  generalize hblocks : (headerAt env packet).getBlockNum = blocks
  generalize hlasers : (headerAt env packet).getLaserNum = lasers
  constructor
  · rintro ⟨h8, h128, hsections⟩ b hb
    rw [hblocks] at h8 h128 hsections
    rw [hlasers] at h128 hsections
    refine ⟨by omega, fun j hj hf idx hidx => ?_⟩
    obtain ⟨hmode, hiff⟩ := sectionIndex_eq_some hidx getAngleState_lt
    have hlaser := h128 hf hmode (by omega)
    exact ⟨by omega, hiff.mpr fun h3 => hsections hf h3 (by omega) b hb⟩
  · intro hall
    refine ⟨?_, fun hf hmode hpos => ?_, fun hf h3 hpos b hb => ?_⟩
    · rw [hblocks]
      by_contra hmore
      have hlast := (hall 8 (by omega)).1
      omega
    · rw [hblocks] at hpos
      rw [hlasers]
      by_contra hmore
      obtain ⟨idx, hidx⟩ := sectionIndex_isSome _ (angleStateAt env packet 0) hmode
      have hlaser := ((hall 0 hpos).2 128 (by omega) hf idx hidx).1
      omega
    · rw [hlasers] at hpos
      rw [hblocks] at hb
      obtain ⟨idx, hidx⟩ := sectionIndex_isSome (optModeAt env packet) (angleStateAt env packet b)
        (by rw [h3]; decide)
      exact (sectionIndex_eq_some hidx getAngleState_lt).2.mp ((hall b hb).2 0 hpos hf idx hidx).2 h3

end Packet

/-- Exactly then every lookup and every shift of an accepted packet is defined. -/
theorem lookups_inside_iff {Pt : Type} (env : Environment) (packet : UdpPacket) (p : Udp14Parser)
    (frame : LidarDecodedFrame Pt) (hret : (p.decodePacket env packet frame).val.ret = 0) :
    (∀ e ∈ (p.decodePacket env packet frame).log, LookupInside e) ↔ FiretimesInside env packet p := by
  obtain ⟨hc, hd⟩ := decodePacket_ret.mp hret
  rw [firetimesInside_iff]
  exact inside_decodePacket hc hd

def onePointPacket (runningMode : UInt8) : UdpPacket :=
  UdpPacket.ofBytes ([0xEE, 0xFF, 1, 4, 0, 0, 1, 1, 0, 4, 0, 0] ++ List.replicate 18 0 ++ [0xFF, 0xFF, runningMode] ++
    List.replicate 14 0)

def firetimeParser : Udp14Parser :=
  { (default : Udp14Parser) with
    getCorrectionFile := true
    getFiretimeFile := true }

/-- Three blocks of four units in mode 3, with the angle states 1, 0 and 1. -/
def statesPacket : UdpPacket :=
  UdpPacket.ofBytes ([0xEE, 0xFF, 1, 4, 0, 0, 4, 3, 0, 4, 0, 0] ++ List.replicate 55 40 ++ [0x00, 0x44, 3] ++
    List.replicate 14 0)

theorem lookups_inside_states :
    ((firetimeParser.decodePacket default statesPacket (default : LidarDecodedFrame ℕ)).val.ret = 0 ∧
      optModeAt default statesPacket = 3) ∧
      ∀ e ∈ (firetimeParser.decodePacket default statesPacket (default : LidarDecodedFrame ℕ)).log, LookupInside e := by
  have hret : (firetimeParser.decodePacket default statesPacket (default : LidarDecodedFrame ℕ)).val.ret = 0 :=
    decodePacket_ret.mpr ⟨rfl, by decide⟩
  refine ⟨⟨hret, by decide +kernel⟩, ?_⟩
  refine (lookups_inside_iff default statesPacket firetimeParser default hret).mpr ⟨by decide, fun _ _ _ => by decide,
    fun _ _ _ => ?_⟩
  have hblocks : (headerAt default statesPacket).getBlockNum = 3 := by decide +kernel
  rw [hblocks]
  decide +kernel

/-- In mode 3 the angle state 3 looks up section 9 of 8. -/
theorem lookups_inside_mode3 : ¬∀ (env : Environment) (packet : UdpPacket) (p : Udp14Parser)
    (frame : LidarDecodedFrame ℕ), (p.decodePacket env packet frame).val.ret = 0 →
    ∀ e ∈ (p.decodePacket env packet frame).log, LookupInside e := by
  intro h
  have hinside := (inside_decodePacket rfl (by decide)).mp
    (h default (onePointPacket 3) firetimeParser default (decodePacket_ret.mpr ⟨rfl, by decide⟩))
  exact absurd ((hinside 0 (by decide)).2 0 (by decide) rfl 9 (by decide)).2 (by decide)

end HesaiSdk.Parsing.Udp14Parser
