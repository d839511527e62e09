import HesaiSdk.Library.ByteLayout

/-! The packed structures of a pcap file, in the byte order of a little-endian host. -/

namespace HesaiSdk.Source

open Library.ByteLayout

def pcapMagicNumber : UInt32 := 0xa1b2c3d4

structure PcapHeader where
  magicNumber : UInt32
  versionMajor : UInt16
  versionMinor : UInt16
  thiszone : UInt32
  sigfigs : UInt32
  snaplen : UInt32
  network : UInt32
deriving DecidableEq, Inhabited

structure PcapRecord where
  tsSec : UInt32
  tsUsec : UInt32
  inclLen : UInt32
  origLen : UInt32
deriving DecidableEq, Inhabited

structure UDP where
  sourcePort : UInt16
  distinationPort : UInt16
  length : UInt16
  checkSum : UInt16
deriving DecidableEq, Inhabited

def sizeofPcapHeader : ℕ := 24

def sizeofPcapRecord : ℕ := 16

def sizeofEthernet : ℕ := 14

def sizeofPcapIPHeader : ℕ := 34

def sizeofPcapIPv6Header : ℕ := 54

def sizeofPcapUDPHeader : ℕ := 42

def sizeofPcapUDPv6Header : ℕ := 62

def sizeofPcapTCPHeader : ℕ := 54

def sizeofPcapTCPv6Header : ℕ := 74

def u16Bytes (x : UInt16) : List UInt8 := leBytes 2 x.toNat

def u32Bytes (x : UInt32) : List UInt8 := leBytes 4 x.toNat

def u16At (mem : ℕ → UInt8) (o : ℕ) : UInt16 := UInt16.ofNat (leNat (bytesAt mem o 2))

def u32At (mem : ℕ → UInt8) (o : ℕ) : UInt32 := UInt32.ofNat (leNat (bytesAt mem o 4))

/-- `uint16_t(((x & 0xff) << 8) | (x >> 8))`: network order. -/
def swapped (x : ℕ) : UInt16 := UInt16.ofNat (((x &&& 0xff) <<< 8) ||| (x >>> 8))

@[simp] lemma length_u16Bytes (x : UInt16) : (u16Bytes x).length = 2 := length_leBytes _ _

@[simp] lemma length_u32Bytes (x : UInt32) : (u32Bytes x).length = 4 := length_leBytes _ _

lemma toNat_swapped {x : ℕ} (hx : x < 65536) : (swapped x).toNat = x % 256 * 256 + x / 256 := by
  have hand : x &&& 0xff = x % 256 := Nat.and_two_pow_sub_one_eq_mod x 8
  have hshift : x >>> 8 = x / 256 := Nat.shiftRight_eq_div_pow x 8
  have hlt : x / 256 < 2 ^ 8 := Nat.div_lt_of_lt_mul (by omega)
  rw [swapped, hand, hshift, ← Nat.shiftLeft_add_eq_or_of_lt hlt, Nat.shiftLeft_eq, UInt16.toNat_ofNat']
  omega

lemma swapped_u16At (mem : ℕ → UInt8) (o : ℕ) :
    (swapped (u16At mem o).toNat).toNat = beNat (bytesAt mem o 2) := by
  have h0 := (mem o).toNat_lt
  have h1 := (mem (o + 1)).toNat_lt
  have hle : leNat (bytesAt mem o 2) = (mem o).toNat + 256 * (mem (o + 1)).toNat := by
    simp [bytesAt, List.range_succ]
  have hbe : beNat (bytesAt mem o 2) = (mem (o + 1)).toNat + 256 * (mem o).toNat := by
    simp [bytesAt, List.range_succ, beNat]
  have hu : (u16At mem o).toNat = (mem o).toNat + 256 * (mem (o + 1)).toNat := by
    rw [u16At, hle, UInt16.toNat_ofNat']
    omega
  rw [toNat_swapped (by omega), hbe, hu]
  omega

section Reading

variable {mem : ℕ → UInt8} {o : ℕ}

lemma u16At_of_holds {x : UInt16} (h : Holds mem o (u16Bytes x)) : u16At mem o = x := by
  have hb := bytesAt_of_holds h (length_u16Bytes x)
  have hx : x.toNat < 256 ^ 2 := x.toNat_lt
  rw [u16At, hb, u16Bytes, leNat_leBytes_of_lt hx, UInt16.ofNat_toNat]

lemma u32At_of_holds {x : UInt32} (h : Holds mem o (u32Bytes x)) : u32At mem o = x := by
  have hb := bytesAt_of_holds h (length_u32Bytes x)
  have hx : x.toNat < 256 ^ 4 := x.toNat_lt
  rw [u32At, hb, u32Bytes, leNat_leBytes_of_lt hx, UInt32.ofNat_toNat]

lemma u32Bytes_u32At : u32Bytes (u32At mem o) = bytesAt mem o 4 := by
  have hlt : leNat (bytesAt mem o 4) < 2 ^ 32 := by
    have h := leNat_lt (bytesAt mem o 4)
    rwa [length_bytesAt] at h
  rw [u32Bytes, u32At, UInt32.toNat_ofNat', Nat.mod_eq_of_lt hlt]
  conv_lhs => rw [← length_bytesAt mem o 4]
  exact leBytes_leNat _

end Reading

namespace PcapHeader

def bytes (h : PcapHeader) : List UInt8 :=
  u32Bytes h.magicNumber ++ u16Bytes h.versionMajor ++ u16Bytes h.versionMinor ++ u32Bytes h.thiszone ++
    u32Bytes h.sigfigs ++ u32Bytes h.snaplen ++ u32Bytes h.network

def readAt (mem : ℕ → UInt8) (o : ℕ) : PcapHeader :=
  ⟨u32At mem o, u16At mem (o + 4), u16At mem (o + 6), u32At mem (o + 8), u32At mem (o + 12),
    u32At mem (o + 16), u32At mem (o + 20)⟩

/-- What the recorder writes at the start of a file. -/
def recorded : PcapHeader := ⟨pcapMagicNumber, 2, 4, 0, 0, 0xffff, 1⟩

variable {h : PcapHeader} {mem : ℕ → UInt8} {o : ℕ}

@[simp] lemma length_bytes : h.bytes.length = sizeofPcapHeader := by
  simp [bytes, sizeofPcapHeader]

lemma readAt_of_holds (hb : Holds mem o h.bytes) : readAt mem o = h := by
  simp only [bytes, holds_append, List.length_append, length_u32Bytes, length_u16Bytes] at hb
  obtain ⟨⟨⟨⟨⟨⟨hm, hj⟩, hi⟩, ht⟩, hs⟩, hl⟩, hn⟩ := hb
  rw [readAt, u32At_of_holds hm, u16At_of_holds hj, u16At_of_holds hi, u32At_of_holds ht, u32At_of_holds hs,
    u32At_of_holds hl, u32At_of_holds hn]

end PcapHeader

namespace PcapRecord

def bytes (r : PcapRecord) : List UInt8 :=
  u32Bytes r.tsSec ++ u32Bytes r.tsUsec ++ u32Bytes r.inclLen ++ u32Bytes r.origLen

def readAt (mem : ℕ → UInt8) (o : ℕ) : PcapRecord :=
  ⟨u32At mem o, u32At mem (o + 4), u32At mem (o + 8), u32At mem (o + 12)⟩

variable {r : PcapRecord} {mem : ℕ → UInt8} {o : ℕ}

@[simp] lemma length_bytes : r.bytes.length = sizeofPcapRecord := by
  simp [bytes, sizeofPcapRecord]

lemma readAt_of_holds (hb : Holds mem o r.bytes) : readAt mem o = r := by
  simp only [bytes, holds_append, List.length_append, length_u32Bytes] at hb
  obtain ⟨⟨⟨hs, hu⟩, hi⟩, ho⟩ := hb
  rw [readAt, u32At_of_holds hs, u32At_of_holds hu, u32At_of_holds hi, u32At_of_holds ho]

lemma bytes_readAt (bytes : List UInt8) (h : bytes.length = sizeofPcapRecord) :
    (readAt (overlay bytes fun _ => 0) 0).bytes = bytes := by
  have hmem : Holds (overlay bytes fun _ => 0) 0 bytes := holds_overlay bytes
  have hall := bytesAt_of_holds hmem h
  rw [PcapRecord.bytes, readAt, u32Bytes_u32At, u32Bytes_u32At, u32Bytes_u32At, u32Bytes_u32At,
    bytesAt_append, bytesAt_append, bytesAt_append]
  exact hall

end PcapRecord

namespace UDP

def bytes (u : UDP) : List UInt8 :=
  u16Bytes u.sourcePort ++ u16Bytes u.distinationPort ++ u16Bytes u.length ++ u16Bytes u.checkSum

def readAt (mem : ℕ → UInt8) (o : ℕ) : UDP :=
  ⟨u16At mem o, u16At mem (o + 2), u16At mem (o + 4), u16At mem (o + 6)⟩

variable {u : UDP} {mem : ℕ → UInt8} {o : ℕ}

@[simp] lemma length_bytes : u.bytes.length = 8 := by
  simp [bytes]

lemma readAt_of_holds (hb : Holds mem o u.bytes) : readAt mem o = u := by
  simp only [bytes, holds_append, List.length_append, length_u16Bytes] at hb
  obtain ⟨⟨⟨hs, hd⟩, hl⟩, hc⟩ := hb
  rw [readAt, u16At_of_holds hs, u16At_of_holds hd, u16At_of_holds hl, u16At_of_holds hc]

end UDP

/-- `PcapIPHeader(protocol, pkt_len)`, fields in their order. -/
def pcapIPHeader (protocol : UInt8) (pktLen : UInt16) : List UInt8 :=
  List.replicate 6 0xff ++ [0x00, 0x0a, 0x35, 0x00, 0x1e, 0x53] ++ u16Bytes 0x0008 ++
    ([0x45, 0x00] ++ u16Bytes (swapped (pktLen.toNat + 20)) ++ u16Bytes 0xf17a ++
      u16Bytes 0x0040 ++ [0x40, protocol] ++
      u16Bytes 0x80f8 ++ u32Bytes 0xc901a8c0 ++ u32Bytes 0xffffffff)

def pcapUDP (pktLen port : UInt16) : UDP :=
  ⟨0x1027, swapped port.toNat, swapped (pktLen.toNat + 8), 0⟩

def pcapUDPHeader (pktLen port : UInt16) : List UInt8 :=
  pcapIPHeader 0x11 (pktLen + 8) ++ (pcapUDP pktLen port).bytes

@[simp] lemma length_pcapIPHeader (protocol : UInt8) (pktLen : UInt16) :
    (pcapIPHeader protocol pktLen).length = sizeofPcapIPHeader := by
  simp [pcapIPHeader, sizeofPcapIPHeader]

@[simp] lemma length_pcapUDPHeader (pktLen port : UInt16) :
    (pcapUDPHeader pktLen port).length = sizeofPcapUDPHeader := by
  simp [pcapUDPHeader, sizeofPcapIPHeader, sizeofPcapUDPHeader]

end HesaiSdk.Source
