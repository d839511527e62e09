import HesaiSdk.UdpProtocol.V14

/-! Messages of protocol 1.4 and their layout by the protocol structs. -/

namespace HesaiSdk.UdpProtocol.V14

open Library Library.ByteLayout Lidar

structure Tail where
  reservedInfo1 : UInt16 × UInt8
  reservedInfo2 : UInt16 × UInt8
  reservedInfo3 : UInt16 × UInt8
  azimuthFlag : UInt16
  runningMode : UInt8
  returnMode : UInt8
  motorSpeed : UInt16
  year : UInt8
  mon : UInt8
  mday : UInt8
  hour : UInt8
  min : UInt8
  sec : UInt8
  timestamp : UInt32
  factoryInfo : UInt8
deriving Inhabited

namespace Tail

variable (t : Tail)

def encode : List UInt8 :=
  leBytes 2 t.reservedInfo1.1.toNat ++ [t.reservedInfo1.2] ++ leBytes 2 t.reservedInfo2.1.toNat ++
  [t.reservedInfo2.2] ++ leBytes 2 t.reservedInfo3.1.toNat ++ [t.reservedInfo3.2] ++
  leBytes 2 t.azimuthFlag.toNat ++ [t.runningMode] ++ [t.returnMode] ++ leBytes 2 t.motorSpeed.toNat ++
  [t.year, t.mon, t.mday, t.hour, t.min, t.sec] ++ leBytes 4 t.timestamp.toNat ++ [t.factoryInfo]

@[simp] lemma length_encode : t.encode.length = sizeofTail := by
  simp [encode, sizeofTail]

-- Else every step below evaluates the bytes to find out what `Holds` says of them.
attribute [local irreducible] encode

lemma holds_fields {t : Tail} {mem : ℕ → UInt8} {o : ℕ} (h : Holds mem o t.encode) :
    Holds mem (o + 9) (leBytes 2 t.azimuthFlag.toNat) ∧ mem (o + 11) = t.runningMode ∧
      mem (o + 12) = t.returnMode ∧ Holds mem (o + 13) (leBytes 2 t.motorSpeed.toNat) ∧
      Holds mem (o + 15) [t.year, t.mon, t.mday, t.hour, t.min, t.sec] ∧
      Holds mem (o + 21) (leBytes 4 t.timestamp.toNat) := by
  simp only [encode, List.append_assoc, holds_append, length_leBytes, List.length_cons, List.length_nil,
    Nat.add_assoc, Nat.reduceAdd] at h
  obtain ⟨-, -, -, -, -, -, hf, hr, hm, hs, hu, ht, -⟩ := h
  exact ⟨hf, hr.1, hm.1, hs, hu, ht⟩

def microTime (env : Environment) : UInt64 :=
  if t.year = 0 then
    unixMicroTime (UInt32.ofNat (beNat [t.mday, t.hour, t.min, t.sec])) t.timestamp
  else
    match tmYear t.year with
    | none => 0
    | some year => calendarMicroTime env year t.mon t.mday t.hour t.min t.sec t.timestamp

lemma getMicroLidarTime_of_holds {env : Environment} {packet : UdpPacket} {t : Tail} {o : ℕ}
    (h : Holds (byteAt env packet) o t.encode) :
    (getMicroLidarTime env packet o).val = t.microTime env := by
  obtain ⟨-, -, -, -, ⟨hyear, hmon, hmday, hhour, hmin, hsec, -⟩, ht⟩ := holds_fields h
  have hmicro := readU32_of_holds ht
  have hunix : (readU32Big env packet (o + 15 + 2)).val = UInt32.ofNat (beNat [t.mday, t.hour, t.min, t.sec]) := by
    have hb : bytesAt (byteAt env packet) (o + 15 + 2) 4 = [t.mday, t.hour, t.min, t.sec] :=
      bytesAt_of_holds ⟨hmday, hhour, hmin, hsec, trivial⟩ rfl
    simp only [readU32Big, readBytes, val_bind, val_pure, hb]
  rw [getMicroLidarTime, getMicroLidarTimeU64, val_bind, readU8_val, hyear, microTime]
  by_cases hy : t.year = 0
  · rw [if_neg (by simpa using hy), if_pos hy]
    rw [val_bind, val_bind, val_pure, hunix, hmicro]
  · rw [if_pos hy, if_neg hy]
    cases tmYear t.year with
    | none => rfl
    | some year => simp only [val_bind, val_pure, readU8_val, hmicro, hmon, hmday, hhour, hmin, hsec]

end Tail

structure Message where
  versionMajor : UInt8
  versionMinor : UInt8
  statusInfoVersion : UInt8
  reserved1 : UInt8
  header : Header
  echoCount : UInt8
  echoNum : UInt8
  azimuth : ℕ → UInt16
  distance : ℕ → ℕ → UInt16
  reflectivity : ℕ → ℕ → UInt8
  confidence : ℕ → ℕ → UInt8
  crc : UInt32
  funcSafety : { bytes : List UInt8 // bytes.length = sizeofFuncSafety }
  tail : Tail
  seqNum : UInt32

instance : Inhabited Message where
  default :=
    { versionMajor := 1
      versionMinor := 4
      statusInfoVersion := 0
      reserved1 := 0
      header := ⟨2, 1, 4, 0x15⟩
      echoCount := 0
      echoNum := 0
      azimuth := fun _ => 300
      distance := fun _ j => 1000 + j.toUInt16
      reflectivity := fun _ _ => 7
      confidence := fun _ _ => 1
      crc := 0
      funcSafety := ⟨List.replicate 17 0, rfl⟩
      tail := default
      seqNum := 42 }

namespace Message

variable (m : Message)

def encodeUnit (b j : ℕ) : List UInt8 :=
  leBytes 2 (m.distance b j).toNat ++ [m.reflectivity b j] ++
    if m.header.hasConfidenceLevel then [m.confidence b j] else []

def encodeBlock (b : ℕ) : List UInt8 :=
  leBytes 2 (m.azimuth b).toNat ++ (List.range m.header.getLaserNum).flatMap (m.encodeUnit b)

def encode : List UInt8 :=
  [0xEE, 0xFF, m.versionMajor, m.versionMinor, m.statusInfoVersion, m.reserved1] ++
  [m.header.laserNum, m.header.blockNum, m.echoCount, m.header.distUnit, m.echoNum, m.header.status] ++
  (List.range m.header.getBlockNum).flatMap m.encodeBlock ++ leBytes 4 m.crc.toNat ++
  (if m.header.hasFuncSafety then m.funcSafety.1 else []) ++ m.tail.encode ++
  if m.header.hasSeqNum then leBytes 4 m.seqNum.toNat else []

/-- A packet whose buffer starts with the message; what lies behind it is as it was. -/
def writeTo (packet : UdpPacket) : UdpPacket :=
  { packet with buffer := fun i => m.encode.getD i (packet.buffer i) }

@[simp] lemma length_encodeUnit (b j : ℕ) : (m.encodeUnit b j).length = m.header.unitSize := by
  rw [encodeUnit, Header.unitSize]
  split <;> rfl

@[simp] lemma length_encodeBlock (b : ℕ) : (m.encodeBlock b).length = m.header.blockSize := by
  rw [encodeBlock, List.length_append, length_leBytes,
    length_flatMap_range fun j _ => m.length_encodeUnit b j]
  rfl

lemma length_encode : m.encode.length =
    m.header.seqNumOffset + if m.header.hasSeqNum then sizeofTailSeqNum else 0 := by
  have hb := length_flatMap_range (n := m.header.getBlockNum) fun b _ => m.length_encodeBlock b
  rw [Header.seqNumOffset, Header.tailOffset, Header.funcSafetyOffset, Header.bodyOffset]
  simp only [encode, List.length_append, hb, length_leBytes, Tail.length_encode]
  split_ifs <;> simp [sizeofPreHeader, sizeofHeader, sizeofBodyCrc, sizeofTailSeqNum, m.funcSafety.2]

lemma holds_writeTo (env : Environment) (packet : UdpPacket) (hfit : m.encode.length ≤ kBufSize) :
    Holds (byteAt env (m.writeTo packet)) 0 m.encode := by
  rw [holds_iff]
  apply List.ext_getElem
  · simp [bytesAt]
  · intro i hi hi'
    have hb : i < kBufSize := by omega
    simp [bytesAt, byteAt, writeTo, hb, hi']

section Offsets

variable {m} {mem : ℕ → UInt8} (hm : Holds mem 0 m.encode)

attribute [local irreducible] Tail.encode encode

include hm

lemma holds_delimiter : mem 0 = 0xEE ∧ mem 1 = 0xFF := by
  simp only [encode, List.append_assoc, List.cons_append, List.nil_append, holds_cons] at hm
  exact ⟨hm.1, hm.2.1⟩

lemma holds_header : mem 6 = m.header.laserNum ∧ mem 7 = m.header.blockNum ∧
    mem 9 = m.header.distUnit ∧ mem 11 = m.header.status := by
  simp only [encode, List.append_assoc, List.cons_append, List.nil_append, holds_cons] at hm
  obtain ⟨-, -, -, -, -, -, h6, h7, -, h9, -, h11, -⟩ := hm
  exact ⟨h6, h7, h9, h11⟩

lemma holds_behind_header : Holds mem Header.bodyOffset
    ((List.range m.header.getBlockNum).flatMap m.encodeBlock ++ (leBytes 4 m.crc.toNat ++
      ((if m.header.hasFuncSafety then m.funcSafety.1 else []) ++ (m.tail.encode ++
        if m.header.hasSeqNum then leBytes 4 m.seqNum.toNat else [])))) := by
  simp only [encode, List.append_assoc] at hm
  rw [holds_append, holds_append] at hm
  exact hm.2.2

lemma holds_block {b : ℕ} (hb : b < m.header.getBlockNum) :
    Holds mem (Header.bodyOffset + m.header.blockSize * b) (m.encodeBlock b) :=
  holds_flatMap_range (fun b _ => m.length_encodeBlock b) (holds_append.mp (holds_behind_header hm)).1 hb

lemma holds_behind_body : Holds mem m.header.funcSafetyOffset
    ((if m.header.hasFuncSafety then m.funcSafety.1 else []) ++ (m.tail.encode ++
      if m.header.hasSeqNum then leBytes 4 m.seqNum.toNat else [])) := by
  have h := (holds_append.mp (holds_behind_header hm)).2
  rw [length_flatMap_range fun b _ => m.length_encodeBlock b, holds_append, length_leBytes] at h
  exact h.2

lemma holds_behind_funcSafety : Holds mem m.header.tailOffset
    (m.tail.encode ++ if m.header.hasSeqNum then leBytes 4 m.seqNum.toNat else []) := by
  have h := (holds_append.mp (holds_behind_body hm)).2
  rw [Header.tailOffset]
  by_cases hf : m.header.hasFuncSafety
  · rw [if_pos hf] at h ⊢
    rwa [m.funcSafety.2] at h
  · rw [if_neg hf] at h ⊢
    exact h

lemma holds_tail : Holds mem m.header.tailOffset m.tail.encode :=
  (holds_append.mp (holds_behind_funcSafety hm)).1

lemma holds_seqNum (hs : m.header.hasSeqNum) :
    Holds mem m.header.seqNumOffset (leBytes 4 m.seqNum.toNat) := by
  have h := (holds_append.mp (holds_behind_funcSafety hm)).2
  rwa [if_pos hs, Tail.length_encode] at h

end Offsets

end Message

end HesaiSdk.UdpProtocol.V14
