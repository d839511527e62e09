import HesaiSdk.Lidar.Types
import HesaiSdk.Source.PcapHeaders

namespace HesaiSdk.Source

open Library.ByteLayout Lidar

/-- `PcapSource` with its `Private`; `payload` is the array of 1500 bytes. -/
structure PcapSource where
  isOpened : Bool
  fileData : List UInt8
  fpos : ℕ
  pcapHeader : PcapHeader
  pcapRecord : PcapRecord
  pcapUdpHeader : UDP
  payload : ℕ → UInt8
  tcpCallback : Bool
  isPcapEnd : Bool
deriving Inhabited

structure Received where
  ret : ℤ
  packet : UdpPacket
  source : PcapSource

def memcpy (packet : UdpPacket) (bytes : List UInt8) : UdpPacket :=
  { packet with buffer := fun i => bytes.getD i (packet.buffer i) }

def taken (packet : UdpPacket) (n : ℕ) : List UInt8 := (List.ofFn packet.buffer).take n

lemma length_taken {packet : UdpPacket} {n : ℕ} (h : n ≤ kBufSize) : (taken packet n).length = n := by
  have hbuffer : (List.ofFn packet.buffer).length = kBufSize := List.length_ofFn
  rw [taken, List.length_take, hbuffer, Nat.min_eq_left h]

lemma taken_memcpy {packet : UdpPacket} {bytes : List UInt8} (h : bytes.length ≤ kBufSize) :
    taken (memcpy packet bytes) bytes.length = bytes := by
  apply List.ext_getElem
  · simp only [taken, List.length_take, List.length_ofFn]
    omega
  · intro i hi hb
    simp only [taken, List.getElem_take, List.getElem_ofFn, memcpy]
    rw [List.getD_eq_getElem?_getD, List.getElem?_eq_getElem hb, Option.getD_some]

namespace PcapSource

def eof (s : PcapSource) : Bool := s.fpos == s.fileData.length

def read (s : PcapSource) (length : ℕ) : Option (List UInt8 × PcapSource) :=
  if s.fpos + length > s.fileData.length then none
  else some ((s.fileData.drop s.fpos).take length, { s with fpos := s.fpos + length })

def move (s : PcapSource) (length : ℕ) : Option PcapSource :=
  if s.fpos + length > s.fileData.length then none
  else some { s with fpos := s.fpos + length }

def readRecord (s : PcapSource) : Option PcapSource :=
  (s.read sizeofPcapRecord).map fun (bytes, s) =>
    { s with pcapRecord := PcapRecord.readAt (overlay bytes fun _ => 0) 0 }

def readPayload (s : PcapSource) (length : ℕ) : Option PcapSource :=
  (s.read length).map fun (bytes, s) => { s with payload := overlay bytes s.payload }

def close (s : PcapSource) : PcapSource :=
  { s with
    isOpened := false
    fileData := if s.isOpened then [] else s.fileData
    fpos := 0 }

def openFile (s : PcapSource) (file : Option (List UInt8)) : Bool × PcapSource :=
  match file with
  | none => (false, s.close)
  | some data =>
    let s := { s.close with isOpened := true, fileData := data }
    let s := match s.read sizeofPcapHeader with
      | none => s
      | some (bytes, s) => { s with pcapHeader := PcapHeader.readAt (overlay bytes fun _ => 0) 0 }
    (s.pcapHeader.magicNumber == pcapMagicNumber, s)

section Next

variable (s : PcapSource) (packet : UdpPacket)

def inclLen : ℕ := s.pcapRecord.inclLen.toNat

def readUdp (o : ℕ) : PcapSource := { s with pcapUdpHeader := UDP.readAt s.payload o }

/-- `case 17` of three of the four header walks. -/
def udpCase (udp headers : ℕ) : Received :=
  let s := s.readUdp udp
  if s.inclLen < headers then ⟨1, packet, s⟩
  else ⟨(s.inclLen - headers : ℕ), memcpy packet (bytesAt s.payload headers (s.inclLen - headers)), s⟩

/-- `case 6` of all four; nobody reads the TCP header that it keeps. -/
def tcpCase (headers : ℕ) : Received :=
  if s.inclLen < headers then ⟨1, packet, s⟩
  else if s.tcpCallback then ⟨(s.inclLen - headers : ℕ), packet, s⟩
  else ⟨2, packet, s⟩

def ipv4 : Received :=
  match s.payload 23 with
  | 17 => s.udpCase packet sizeofPcapIPHeader sizeofPcapUDPHeader
  | 6 => s.tcpCase packet sizeofPcapTCPHeader
  | _ => ⟨2, packet, s⟩

def ipv6 : Received :=
  match s.payload 20 with
  | 17 => s.udpCase packet sizeofPcapIPv6Header sizeofPcapUDPv6Header
  | 6 => s.tcpCase packet sizeofPcapTCPv6Header
  | _ => ⟨2, packet, s⟩

/-- The tag moves everything 4 bytes on; the UDP header is still read at its untagged place. -/
def vlanIpv4 : Received :=
  match s.payload (sizeofEthernet + 13) with
  | 17 => s.udpCase packet sizeofPcapIPHeader (sizeofPcapUDPHeader + 4)
  | 6 => s.tcpCase packet (sizeofPcapTCPHeader + 4)
  | _ => ⟨2, packet, s⟩

/-- Here the UDP payload is not copied, and the protocol is read where IPv4 has it. -/
def vlanIpv6 : Received :=
  match s.payload (sizeofEthernet + 13) with
  | 17 =>
    if s.inclLen < sizeofPcapUDPv6Header + 4 then ⟨1, packet, s⟩
    else ⟨(s.inclLen - (sizeofPcapUDPv6Header + 4) : ℕ), packet, s.readUdp sizeofPcapIPv6Header⟩
  | 6 => s.tcpCase packet (sizeofPcapTCPv6Header + 4)
  | _ => ⟨2, packet, s⟩

def vlan : Received :=
  match u16At s.payload (sizeofEthernet + 2) with
  | 0x0008 => s.vlanIpv4 packet
  | 0xdd86 => s.vlanIpv6 packet
  | _ => ⟨2, packet, s⟩

def ethernet : Received :=
  match u16At s.payload 12 with
  | 0x0008 => s.ipv4 packet
  | 0xdd86 => s.ipv6 packet
  | 0x0081 => s.vlan packet
  | _ => ⟨1, packet, s⟩

def readFrame : Received :=
  if s.inclLen ≤ 1500 ∧ sizeofEthernet < s.inclLen then
    match s.readPayload s.inclLen with
    | none => ⟨-1, packet, s⟩
    | some s => s.ethernet packet
  else match s.move s.inclLen with
  | none => ⟨-1, packet, s⟩
  | some s => ⟨1, packet, s⟩

def next : Received :=
  if s.eof then ⟨-1, packet, { s with isPcapEnd := true }⟩
  else match s.readRecord with
  | none => ⟨-1, packet, s⟩
  | some s => s.readFrame packet

end Next

def distinationPort (s : PcapSource) : UInt16 := swapped s.pcapUdpHeader.distinationPort.toNat

def rest (s : PcapSource) : List UInt8 := s.fileData.drop s.fpos

def afterRecord (s : PcapSource) (record : PcapRecord) (frame : List UInt8) : PcapSource :=
  { s with
    fpos := s.fpos + sizeofPcapRecord + frame.length
    pcapRecord := record
    payload := overlay frame s.payload }

variable {s : PcapSource} {packet : UdpPacket}

/-- What the walks over the headers of a frame come to: only the UDP header may have been read. -/
def Walked (s : PcapSource) (a : Received) : Prop := 0 ≤ a.ret ∧ ∃ u, a.source = { s with pcapUdpHeader := u }

lemma walked_here {ret : ℤ} (h : 0 ≤ ret) : s.Walked ⟨ret, packet, s⟩ := ⟨h, s.pcapUdpHeader, rfl⟩

lemma walked_readUdp {ret : ℤ} {o : ℕ} (h : 0 ≤ ret) : s.Walked ⟨ret, packet, s.readUdp o⟩ := ⟨h, _, rfl⟩

lemma udpCase_walked {udp headers : ℕ} : s.Walked (s.udpCase packet udp headers) := by
  simp only [udpCase]
  split_ifs
  · exact walked_readUdp (by norm_num)
  · exact walked_readUdp (Int.natCast_nonneg _)

lemma tcpCase_walked {headers : ℕ} : s.Walked (s.tcpCase packet headers) := by
  rw [tcpCase]
  split_ifs
  · exact walked_here (by norm_num)
  · exact walked_here (Int.natCast_nonneg _)
  · exact walked_here (by norm_num)

lemma vlan_walked : s.Walked (s.vlan packet) := by
  rw [vlan]
  split
  · rw [vlanIpv4]
    split
    · exact udpCase_walked
    · exact tcpCase_walked
    · exact walked_here (by norm_num)
  · rw [vlanIpv6]
    split
    · split_ifs
      · exact walked_here (by norm_num)
      · exact walked_readUdp (Int.natCast_nonneg _)
    · exact tcpCase_walked
    · exact walked_here (by norm_num)
  · exact walked_here (by norm_num)

lemma ethernet_walked (packet : UdpPacket) (s : PcapSource) : s.Walked (s.ethernet packet) := by
  rw [ethernet]
  split
  · rw [ipv4]
    split
    · exact udpCase_walked
    · exact tcpCase_walked
    · exact walked_here (by norm_num)
  · rw [ipv6]
    split
    · exact udpCase_walked
    · exact tcpCase_walked
    · exact walked_here (by norm_num)
  · exact vlan_walked
  · exact walked_here (by norm_num)

lemma eof_iff : s.eof = true ↔ s.fpos = s.fileData.length := beq_iff_eq

lemma length_rest (h : 0 < s.rest.length) : s.fpos + s.rest.length = s.fileData.length := by
  rw [rest, List.length_drop] at h ⊢
  omega

lemma read_of_rest {bytes tail : List UInt8} {n : ℕ} (h : s.rest = bytes ++ tail) (hn : bytes.length = n)
    (hpos : 0 < n) : s.read n = some (bytes, { s with fpos := s.fpos + n }) := by
  have hl : s.rest.length = n + tail.length := by rw [h, List.length_append, hn]
  have hlen := length_rest (by omega : 0 < s.rest.length)
  have htake : s.rest.take n = bytes := by rw [h, ← hn, List.take_left]
  rw [read, if_neg (by omega), ← htake, rest]

lemma rest_advance {bytes tail : List UInt8} {n : ℕ} (h : s.rest = bytes ++ tail) (hn : bytes.length = n)
    {t : PcapSource} (hd : t.fileData = s.fileData) (hf : t.fpos = s.fpos + n) : t.rest = tail := by
  rw [rest, hd, hf, ← List.drop_drop, ← rest, h, ← hn, List.drop_left]

lemma not_eof {bytes : List UInt8} (h : s.rest = bytes) (hpos : 0 < bytes.length) : s.eof = false := by
  have hlen := length_rest (h ▸ hpos)
  rw [h] at hlen
  rw [Bool.eq_false_iff, ne_eq, eof_iff]
  omega

def afterHeader (s : PcapSource) (record : PcapRecord) : PcapSource :=
  { s with fpos := s.fpos + sizeofPcapRecord, pcapRecord := record }

lemma rest_afterHeader {record : PcapRecord} {tail : List UInt8} (h : s.rest = record.bytes ++ tail) :
    (s.afterHeader record).rest = tail :=
  rest_advance h PcapRecord.length_bytes rfl rfl

lemma readRecord_of_header {record : PcapRecord} {tail : List UInt8} (h : s.rest = record.bytes ++ tail) :
    s.readRecord = some (s.afterHeader record) := by
  rw [readRecord, read_of_rest h PcapRecord.length_bytes (by decide), Option.map_some]
  simp only [PcapRecord.readAt_of_holds (holds_overlay record.bytes)]
  rfl

lemma next_of_header {record : PcapRecord} {tail : List UInt8} (h : s.rest = record.bytes ++ tail) :
    s.next packet = (s.afterHeader record).readFrame packet := by
  have hneof : s.eof = false := not_eof h (by simp [sizeofPcapRecord])
  simp only [next, hneof, Bool.false_eq_true, if_false, readRecord_of_header h]

lemma next_of_rest {record : PcapRecord} {frame tail : List UInt8} (h : s.rest = record.bytes ++ (frame ++ tail))
    (hlen : record.inclLen.toNat = frame.length) (hmin : sizeofEthernet < frame.length) (hmax : frame.length ≤ 1500) :
    s.next packet = (s.afterRecord record frame).ethernet packet := by
  have hincl : (s.afterHeader record).inclLen = frame.length := hlen
  have hread := read_of_rest (rest_afterHeader h) rfl (Nat.zero_lt_of_lt hmin)
  rw [next_of_header h, readFrame, hincl, if_pos ⟨hmax, hmin⟩, readPayload, hread]
  rfl

@[simp] lemma rest_afterRecord {record : PcapRecord} {frame tail : List UInt8}
    (h : s.rest = record.bytes ++ (frame ++ tail)) : (s.afterRecord record frame).rest = tail := by
  have h' : s.rest = (record.bytes ++ frame) ++ tail := by rw [h, List.append_assoc]
  exact rest_advance h' rfl rfl (by simp [afterRecord, Nat.add_assoc])

end PcapSource

end HesaiSdk.Source
