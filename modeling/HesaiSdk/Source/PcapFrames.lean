import HesaiSdk.Source.PcapSource

/-! Ethernet frames with a UDP datagram, laid out as the network has them, and what `next` makes of them. -/

namespace HesaiSdk.Source

open Library.ByteLayout Lidar

structure Datagram where
  sourcePort : UInt16
  distinationPort : UInt16
  checkSum : UInt16
  payload : List UInt8

structure IPv4 where
  typeOfService : UInt8
  identification : UInt16
  fragmentOffset : UInt16
  timeToLive : UInt8
  checksum : UInt16
  srceAddr : Vector UInt8 4
  distAddr : Vector UInt8 4

structure IPv6 where
  trafficClass : UInt8
  flowLabel : BitVec 20
  hopLimit : UInt8
  srceAddr : Vector UInt8 16
  distAddr : Vector UInt8 16

inductive Network where
  | ipv4 (ip : IPv4)
  | ipv6 (ipv6 : IPv6)

/-- An Ethernet II frame; `tag` is the control field of an 802.1Q tag. -/
structure Frame where
  destinationMAC : Vector UInt8 6
  sourceMAC : Vector UInt8 6
  tag : Option UInt16
  network : Network
  datagram : Datagram

def Datagram.length (d : Datagram) : ℕ := 8 + d.payload.length

def Datagram.bytes (d : Datagram) : List UInt8 :=
  beBytes 2 d.sourcePort.toNat ++ (beBytes 2 d.distinationPort.toNat ++ (beBytes 2 d.length ++
    (beBytes 2 d.checkSum.toNat ++ d.payload)))

def IPv4.bytes (ip : IPv4) (udpLength : ℕ) : List UInt8 :=
  [0x45, ip.typeOfService] ++ (beBytes 2 (20 + udpLength) ++ (beBytes 2 ip.identification.toNat ++
    (beBytes 2 ip.fragmentOffset.toNat ++ ([ip.timeToLive, 17] ++ (beBytes 2 ip.checksum.toNat ++
      (ip.srceAddr.toList ++ ip.distAddr.toList))))))

def IPv6.bytes (ip : IPv6) (udpLength : ℕ) : List UInt8 :=
  beBytes 4 (6 * 2 ^ 28 + ip.trafficClass.toNat * 2 ^ 20 + ip.flowLabel.toNat) ++ (beBytes 2 udpLength ++
    ([17, ip.hopLimit] ++ (ip.srceAddr.toList ++ ip.distAddr.toList)))

def Network.etherType : Network → List UInt8
  | .ipv4 _ => [0x08, 0x00]
  | .ipv6 _ => [0x86, 0xdd]

/-- The same, as a little-endian host reads it. -/
def Network.hostType : Network → UInt16
  | .ipv4 _ => 0x0008
  | .ipv6 _ => 0xdd86

def Network.bytes (udpLength : ℕ) : Network → List UInt8
  | .ipv4 ip => ip.bytes udpLength
  | .ipv6 ip => ip.bytes udpLength

def Network.size : Network → ℕ
  | .ipv4 _ => 20
  | .ipv6 _ => 40

def Frame.tagBytes (f : Frame) : List UInt8 :=
  match f.tag with
  | none => []
  | some control => [0x81, 0x00] ++ beBytes 2 control.toNat

def Frame.bytes (f : Frame) : List UInt8 :=
  f.destinationMAC.toList ++ (f.sourceMAC.toList ++ (f.tagBytes ++ (f.network.etherType ++
    (f.network.bytes f.datagram.length ++ f.datagram.bytes))))

@[simp] lemma Datagram.length_bytes (d : Datagram) : d.bytes.length = d.length := by
  simp only [bytes, List.length_append, length_beBytes, length]
  omega

@[simp] lemma IPv4.length_bytes (ip : IPv4) (n : ℕ) : (ip.bytes n).length = 20 := by
  simp [bytes]

@[simp] lemma IPv6.length_bytes (ip : IPv6) (n : ℕ) : (ip.bytes n).length = 40 := by
  simp [bytes]

@[simp] lemma Network.length_etherType (network : Network) : network.etherType.length = 2 := by
  cases network <;> rfl

@[simp] lemma Network.length_bytes (network : Network) (n : ℕ) : (network.bytes n).length = network.size := by
  cases network with
  | ipv4 ip => exact ip.length_bytes n
  | ipv6 ip => exact ip.length_bytes n

lemma Frame.length_bytes (f : Frame) :
    f.bytes.length = 14 + f.tagBytes.length + f.network.size + 8 + f.datagram.payload.length := by
  simp only [bytes, List.length_append, Vector.length_toList, Network.length_etherType, Network.length_bytes,
    Datagram.length_bytes, Datagram.length]
  omega

section Layout

variable {mem : ℕ → UInt8} {o : ℕ}

lemma holds_datagram {d : Datagram} (h : Holds mem o d.bytes) :
    bytesAt mem (o + 2) 2 = beBytes 2 d.distinationPort.toNat ∧ bytesAt mem (o + 8) d.payload.length = d.payload := by
  simp only [Datagram.bytes, holds_append, length_beBytes] at h
  obtain ⟨-, hport, -, -, hpayload⟩ := h
  exact ⟨bytesAt_of_holds hport (length_beBytes _ _), bytesAt_of_holds hpayload rfl⟩

lemma holds_ipv4 {ip : IPv4} {n : ℕ} (h : Holds mem o (ip.bytes n)) :
    mem (o + 9) = 17 ∧ bytesAt mem (o + 18) 2 = ip.distAddr.toList.drop 2 := by
  simp only [IPv4.bytes, holds_append, length_beBytes, Vector.length_toList] at h
  obtain ⟨-, -, -, -, hprotocol, -, -, hdist⟩ := h
  exact ⟨hprotocol.2.1, bytesAt_of_holds (holds_drop (k := 2) (by simp) hdist) (by simp)⟩

lemma holds_ipv6 {ip : IPv6} {n : ℕ} (h : Holds mem o (ip.bytes n)) :
    mem (o + 6) = 17 ∧ mem (o + 9) = ip.srceAddr[1] ∧ bytesAt mem (o + 38) 2 = ip.distAddr.toList.drop 14 := by
  simp only [IPv6.bytes, holds_append, length_beBytes, Vector.length_toList] at h
  obtain ⟨-, -, hnext, hsrce, hdist⟩ := h
  refine ⟨hnext.1, ?_, bytesAt_of_holds (holds_drop (k := 14) (by simp) hdist) (by simp)⟩
  have hdrop := holds_drop (k := 1) (by simp) hsrce
  rw [List.drop_eq_getElem_cons (by simp)] at hdrop
  simpa using hdrop.1

lemma holds_frame {f : Frame} (h : Holds mem 0 f.bytes) : Holds mem 12 f.tagBytes ∧
    Holds mem (12 + f.tagBytes.length) f.network.etherType ∧
    Holds mem (14 + f.tagBytes.length) (f.network.bytes f.datagram.length) ∧
    Holds mem (14 + f.tagBytes.length + f.network.size) f.datagram.bytes := by
  simp only [Frame.bytes, holds_append, Vector.length_toList, Network.length_etherType,
    Network.length_bytes] at h
  obtain ⟨-, -, htag, htype, hip, hudp⟩ := h
  refine ⟨htag, htype, ?_, ?_⟩
  · convert hip using 1
    omega
  · convert hudp using 1
    omega

end Layout

def Received.Delivers (r : Received) (d : Datagram) : Prop :=
  r.ret = d.payload.length ∧ taken r.packet d.payload.length = d.payload ∧
    r.source.distinationPort = d.distinationPort

/-- When `next` delivers the datagram of a frame. Behind a tag it reads the port from the end of the
destination address, and of IPv6 the protocol from the second byte of the source address. -/
def Frame.Delivered (f : Frame) (s : PcapSource) (packet : UdpPacket) : Prop :=
  match f.tag, f.network with
  | none, _ => True
  | some _, .ipv4 ip => beNat (ip.distAddr.toList.drop 2) = f.datagram.distinationPort.toNat
  | some _, .ipv6 ip =>
    taken packet f.datagram.payload.length = f.datagram.payload ∧
      if ip.srceAddr[1] = 17 then beNat (ip.distAddr.toList.drop 14) = f.datagram.distinationPort.toNat
      else s.distinationPort = f.datagram.distinationPort ∧
        f.datagram.payload.length = if ip.srceAddr[1] = 6 then 1 else 2

namespace PcapSource

variable {s : PcapSource} {packet : UdpPacket} {d : Datagram}

lemma distinationPort_readUdp {o : ℕ} {port : UInt16} :
    (s.readUdp o).distinationPort = port ↔ beNat (bytesAt s.payload (o + 2) 2) = port.toNat := by
  rw [← UInt16.toNat_inj, distinationPort, readUdp, UDP.readAt, swapped_u16At]

lemma udpCase_delivers {udp headers : ℕ} (hlen : s.inclLen = headers + d.payload.length)
    (hpayload : bytesAt s.payload headers d.payload.length = d.payload) (hfit : d.payload.length ≤ kBufSize) :
    (s.udpCase packet udp headers).Delivers d ↔
      beNat (bytesAt s.payload (udp + 2) 2) = d.distinationPort.toNat := by
  have hincl : (s.readUdp udp).inclLen = headers + d.payload.length := hlen
  have hmem : (s.readUdp udp).payload = s.payload := rfl
  rw [udpCase]
  simp only [hincl, hmem]
  rw [if_neg (by omega), Nat.add_sub_cancel_left, hpayload]
  refine ⟨fun h => distinationPort_readUdp.mp h.2.2, fun h => ⟨rfl, ?_, distinationPort_readUdp.mpr h⟩⟩
  exact taken_memcpy hfit

lemma udpCase_delivers_of_holds {udp : ℕ} (hudp : Holds s.payload udp d.bytes)
    (hlen : s.inclLen = udp + 8 + d.payload.length) (hfit : d.payload.length ≤ kBufSize) :
    (s.udpCase packet udp (udp + 8)).Delivers d := by
  obtain ⟨hport, hpayload⟩ := holds_datagram hudp
  refine (udpCase_delivers hlen hpayload hfit).mpr ?_
  exact (congrArg beNat hport).trans (beNat_beBytes_of_lt d.distinationPort.toNat_lt)

lemma tcpCase_kept {headers : ℕ} :
    (s.tcpCase packet headers).packet = packet ∧ (s.tcpCase packet headers).source = s := by
  rw [tcpCase]
  split_ifs <;> exact ⟨rfl, rfl⟩

lemma tcpCase_ret {headers : ℕ} (hlen : s.inclLen + 12 = headers + d.payload.length) :
    (s.tcpCase packet headers).ret = d.payload.length ↔ d.payload.length = 1 := by
  rw [tcpCase]
  split_ifs with hshort hcallback
  · simp only [eq_comm, Nat.cast_eq_one]
  · simp only [Nat.cast_inj]
    omega
  · have h2 : (2 : ℤ) = d.payload.length ↔ d.payload.length = 2 := by omega
    rw [h2]
    omega

lemma u16At_etherType {mem : ℕ → UInt8} {o : ℕ} {network : Network} (h : Holds mem o network.etherType) :
    u16At mem o = network.hostType := by
  cases network with
  | ipv4 ip => exact u16At_of_holds (x := 0x0008) h
  | ipv6 ip => exact u16At_of_holds (x := 0xdd86) h

section Walks

variable {destination source : Vector UInt8 6} {control : UInt16} {ip : IPv4} {ipv6 : IPv6}

lemma ipv4_delivers (packet : UdpPacket)
    (hmem : Holds s.payload 0 (Frame.mk destination source none (.ipv4 ip) d).bytes)
    (hlen : s.inclLen = 42 + d.payload.length) (hfit : d.payload.length ≤ kBufSize) :
    (s.ethernet packet).Delivers d := by
  obtain ⟨-, htype, hip, hudp⟩ := holds_frame hmem
  have hprotocol : s.payload 23 = 17 := (holds_ipv4 hip).1
  have hether : u16At s.payload 12 = 0x0008 := u16At_etherType htype
  rw [ethernet, hether]
  simp only
  rw [PcapSource.ipv4, hprotocol]
  exact udpCase_delivers_of_holds hudp hlen hfit

lemma ipv6_delivers (hmem : Holds s.payload 0 (Frame.mk destination source none (.ipv6 ipv6) d).bytes)
    (hlen : s.inclLen = 62 + d.payload.length) (hfit : d.payload.length ≤ kBufSize) :
    (s.ethernet packet).Delivers d := by
  obtain ⟨-, htype, hip, hudp⟩ := holds_frame hmem
  have hprotocol : s.payload 20 = 17 := (holds_ipv6 hip).1
  have hether : u16At s.payload 12 = 0xdd86 := u16At_etherType htype
  rw [ethernet, hether]
  simp only
  rw [PcapSource.ipv6, hprotocol]
  exact udpCase_delivers_of_holds hudp hlen hfit

lemma vlan_of_tag {f : Frame} (hmem : Holds s.payload 0 f.bytes) (htag : f.tag = some control) :
    s.ethernet packet =
      match f.network with | .ipv4 _ => s.vlanIpv4 packet | .ipv6 _ => s.vlanIpv6 packet := by
  obtain ⟨hcontrol, htype, -, -⟩ := holds_frame hmem
  have hbytes : f.tagBytes = [0x81, 0x00] ++ beBytes 2 control.toNat := by rw [Frame.tagBytes, htag]
  rw [hbytes] at hcontrol htype
  have hether : u16At s.payload 12 = 0x0081 := u16At_of_holds (x := 0x0081) (holds_append.mp hcontrol).1
  have hinner : u16At s.payload (sizeofEthernet + 2) = f.network.hostType := u16At_etherType htype
  rw [ethernet, hether]
  simp only
  rw [vlan, hinner]
  cases f.network with
  | ipv4 ip => rfl
  | ipv6 ip => rfl

lemma vlanIpv4_delivers (hmem : Holds s.payload 0 (Frame.mk destination source (some control) (.ipv4 ip) d).bytes)
    (hlen : s.inclLen = 46 + d.payload.length) (hfit : d.payload.length ≤ kBufSize) :
    (s.ethernet packet).Delivers d ↔ beNat (ip.distAddr.toList.drop 2) = d.distinationPort.toNat := by
  obtain ⟨-, -, hip, hudp⟩ := holds_frame hmem
  obtain ⟨hprotocol, hdist⟩ := holds_ipv4 hip
  have hpayload := (holds_datagram hudp).2
  rw [vlan_of_tag hmem rfl]
  simp only
  rw [vlanIpv4, show s.payload (sizeofEthernet + 13) = 17 from hprotocol, ← hdist]
  exact udpCase_delivers hlen hpayload hfit

lemma vlanIpv6_delivers (hmem : Holds s.payload 0 (Frame.mk destination source (some control) (.ipv6 ipv6) d).bytes)
    (hlen : s.inclLen = 66 + d.payload.length) :
    (s.ethernet packet).Delivers d ↔ taken packet d.payload.length = d.payload ∧
      if ipv6.srceAddr[1] = 17 then beNat (ipv6.distAddr.toList.drop 14) = d.distinationPort.toNat
      else s.distinationPort = d.distinationPort ∧
        d.payload.length = if ipv6.srceAddr[1] = 6 then 1 else 2 := by
  obtain ⟨-, -, hip, hudp⟩ := holds_frame hmem
  obtain ⟨-, hsrce, hdist⟩ := holds_ipv6 hip
  rw [vlan_of_tag hmem rfl]
  simp only
  rw [vlanIpv6, show s.payload (sizeofEthernet + 13) = ipv6.srceAddr[1] from hsrce, ← hdist]
  by_cases h17 : ipv6.srceAddr[1] = 17
  · have hlong : ¬s.inclLen < sizeofPcapUDPv6Header + 4 := by
      rw [hlen, sizeofPcapUDPv6Header]
      omega
    have hret : ((s.inclLen - (sizeofPcapUDPv6Header + 4) : ℕ) : ℤ) = d.payload.length := by
      rw [hlen, sizeofPcapUDPv6Header, Nat.add_sub_cancel_left]
    rw [if_pos h17, h17]
    simp only [hlong, if_false, Received.Delivers, hret, true_and, distinationPort_readUdp]
    rfl
  by_cases h6 : ipv6.srceAddr[1] = 6
  · have hret : (s.tcpCase packet (sizeofPcapTCPv6Header + 4)).ret = d.payload.length ↔ d.payload.length = 1 :=
      tcpCase_ret (by rw [hlen, sizeofPcapTCPv6Header]; omega)
    rw [if_neg h17, if_pos h6, h6]
    simp only [Received.Delivers, hret, tcpCase_kept.1, tcpCase_kept.2]
    tauto
  · have hret : (2 : ℤ) = d.payload.length ↔ d.payload.length = 2 := by omega
    rw [if_neg h17, if_neg h6]
    split
    · contradiction
    · contradiction
    · simp only [Received.Delivers, hret]
      tauto

end Walks

lemma sizeofEthernet_lt (f : Frame) : sizeofEthernet < f.bytes.length := by
  rw [f.length_bytes, sizeofEthernet]
  omega

/-- The datagram of a frame is delivered exactly under the frame's condition, from any state of the
source at a record with it. -/
theorem next_delivers_iff {record : PcapRecord} {f : Frame} {tail : List UInt8}
    (hrest : s.rest = record.bytes ++ (f.bytes ++ tail)) (hincl : record.inclLen.toNat = f.bytes.length)
    (hmax : f.bytes.length ≤ 1500) : (s.next packet).Delivers f.datagram ↔ f.Delivered s packet := by
  have hlength := f.length_bytes
  have hmem : Holds (s.afterRecord record f.bytes).payload 0 f.bytes := holds_overlay f.bytes
  have hlen : (s.afterRecord record f.bytes).inclLen = f.bytes.length := hincl
  have hfit : f.datagram.payload.length ≤ kBufSize := by
    rw [kBufSize]
    omega
  rw [next_of_rest hrest hincl (sizeofEthernet_lt f) hmax]
  rw [hlength] at hlen
  obtain ⟨destination, source, tag, network, d⟩ := f
  cases tag with
  | none =>
    cases network with
    | ipv4 ip => exact iff_of_true (ipv4_delivers packet hmem hlen hfit) trivial
    | ipv6 ip => exact iff_of_true (ipv6_delivers hmem hlen hfit) trivial
  | some control =>
    cases network with
    | ipv4 ip => exact vlanIpv4_delivers hmem hlen hfit
    | ipv6 ip => exact vlanIpv6_delivers hmem hlen

def exampleFrame (tag : Option UInt16) : Frame :=
  ⟨Vector.replicate 6 0, Vector.replicate 6 0, tag,
    .ipv4 ⟨0, 0, 0, 64, 0, Vector.replicate 4 0, Vector.replicate 4 0⟩, ⟨10000, 2368, 0, [7]⟩⟩

def exampleRecord (f : Frame) : PcapRecord :=
  ⟨0, 0, UInt32.ofNat f.bytes.length, UInt32.ofNat f.bytes.length⟩

def exampleSource (f : Frame) : PcapSource :=
  { (default : PcapSource) with fileData := (exampleRecord f).bytes ++ (f.bytes ++ []) }

theorem next_delivers_untagged :
    ((exampleSource (exampleFrame none)).next default).Delivers (exampleFrame none).datagram :=
  (next_delivers_iff rfl (by decide) (by decide)).mpr trivial

theorem next_misses_tagged :
    (exampleSource (exampleFrame (some 5))).rest =
        (exampleRecord (exampleFrame (some 5))).bytes ++ ((exampleFrame (some 5)).bytes ++ []) ∧
      (exampleRecord (exampleFrame (some 5))).inclLen.toNat = (exampleFrame (some 5)).bytes.length ∧
      (exampleFrame (some 5)).bytes.length ≤ 1500 ∧
      ¬((exampleSource (exampleFrame (some 5))).next default).Delivers (exampleFrame (some 5)).datagram := by
  refine ⟨rfl, by decide, by decide, fun h => ?_⟩
  rw [next_of_rest rfl (by decide) (sizeofEthernet_lt _) (by decide)] at h
  have hport := (vlanIpv4_delivers (holds_overlay _) rfl (by decide)).mp h
  exact absurd hport (by decide)

end PcapSource

end HesaiSdk.Source
