import HesaiSdk.Lidar.Types

namespace HesaiSdk.Lidar

def AT128E2X_PACKET_LEN : ℤ := 1180

def GPS_PACKET_LEN : ℤ := 512

/-- A result of `source_->Receive`: -1, 0 or the length, with the packet as it leaves it. -/
inductive Reception where
  | error
  | timeout (packet : UdpPacket)
  | datagram (len : ℕ) (packet : UdpPacket)

/-- What the switch of `RecieveUdpThread` leaves: the packet, whether it went to
`origin_packets_buffer_`, and `is_timeout_`. -/
structure Switched where
  packet : UdpPacket
  emplaced : Bool
  isTimeout : Bool

def timeoutMarker (packet : UdpPacket) : UdpPacket :=
  { packet with
    packetLen := AT128E2X_PACKET_LEN
    buffer := fun i => if i.val < 2 then 0 else packet.buffer i }

/-- The switch over the length of a packet that `UdpPacket udp_packet` has made with `packet_len` 0. -/
def switchLen (isTimeout : Bool) (len : ℤ) (packet : UdpPacket) : Switched :=
  if len = 0 then
    if isTimeout = false then ⟨timeoutMarker packet, true, true⟩ else ⟨packet, false, isTimeout⟩
  else if len = kFaultMessageLength then ⟨{ packet with packetLen := len }, true, isTimeout⟩
  else if len = GPS_PACKET_LEN then ⟨packet, false, isTimeout⟩
  else if 0 < len then ⟨{ packet with packetLen := len }, true, false⟩
  else ⟨packet, false, isTimeout⟩

namespace Reception

def isError : Reception → Bool
  | error => true
  | _ => false

def switched (isTimeout : Bool) : Reception → Switched
  | error => ⟨{ (default : UdpPacket) with packetLen := 0 }, false, isTimeout⟩
  | timeout packet => switchLen isTimeout 0 { packet with packetLen := 0 }
  | datagram len packet => switchLen isTimeout len { packet with packetLen := 0 }

def IsData : Reception → Prop
  | datagram len _ => len ≠ 0 ∧ (len : ℤ) ≠ kFaultMessageLength ∧ (len : ℤ) ≠ GPS_PACKET_LEN
  | _ => False

end Reception

/-- What `SocketSource::Receive` comes back with; `buffer` is all the memory of a new `UdpPacket`. -/
inductive SocketResult where
  | error
  | timeout (buffer : Fin kBufSize → UInt8) (recvTimestamp : UInt64)
  | datagram (len : ℕ) (buffer : Fin kBufSize → UInt8) (recvTimestamp : UInt64) (ip : UInt32) (port : UInt16)

namespace SocketResult

def reception : SocketResult → Reception
  | error => .error
  | timeout buffer recvTimestamp => .timeout ⟨buffer, 0, true, recvTimestamp, 0, 0⟩
  | datagram len buffer recvTimestamp ip port => .datagram len ⟨buffer, 0, false, recvTimestamp, ip, port⟩

def IsEmpty : SocketResult → Prop
  | error => False
  | timeout _ _ => True
  | datagram len _ _ _ _ => len = 0

variable {r : SocketResult} {b c : Bool}

lemma switched_of_isEmpty (h : r.IsEmpty) : (r.reception.switched b).emplaced = !b ∧
    (r.reception.switched b).isTimeout = true := by
  cases r with
  | error => exact h.elim
  | timeout buffer recvTimestamp => cases b <;> exact ⟨rfl, rfl⟩
  | datagram len buffer recvTimestamp ip port =>
    obtain rfl : len = 0 := h
    cases b <;> exact ⟨rfl, rfl⟩

lemma switched_of_not_isEmpty (h : ¬r.IsEmpty) :
    (r.reception.switched b).packet = (r.reception.switched c).packet ∧
      (r.reception.switched b).emplaced = (r.reception.switched c).emplaced := by
  cases r with
  | error => exact ⟨rfl, rfl⟩
  | timeout buffer recvTimestamp => exact absurd trivial h
  | datagram len buffer recvTimestamp ip port =>
    have hlen : (len : ℤ) ≠ 0 := fun h0 => h (Int.natCast_eq_zero.mp h0)
    simp only [reception, Reception.switched, switchLen, if_neg hlen]
    split_ifs <;> exact ⟨rfl, rfl⟩

variable (len : ℕ) (buffer : Fin kBufSize → UInt8) (recvTimestamp : UInt64) (ip : UInt32) (port : UInt16)

lemma switched_sender (b : Bool) : ((datagram len buffer recvTimestamp ip port).reception.switched b).packet.ip = ip ∧
    ((datagram len buffer recvTimestamp ip port).reception.switched b).packet.port = port ∧
    ((datagram len buffer recvTimestamp ip port).reception.switched b).packet.isTimeout = false := by
  simp only [reception, Reception.switched, switchLen]
  split_ifs <;> exact ⟨rfl, rfl, rfl⟩

lemma switched_fault (h : ((datagram len buffer recvTimestamp ip port).reception.switched b).packet.packetLen =
    kFaultMessageLength) : (len : ℤ) = kFaultMessageLength := by
  simp only [reception, Reception.switched, switchLen] at h
  split_ifs at h with h0 hb hfault hgps hpos
  · exact absurd (show AT128E2X_PACKET_LEN = kFaultMessageLength from h) (by decide)
  · exact absurd (show (0 : ℤ) = kFaultMessageLength from h) (by decide)
  · exact hfault
  · exact absurd (show (0 : ℤ) = kFaultMessageLength from h) (by decide)
  · exact h
  · exact absurd (show (0 : ℤ) = kFaultMessageLength from h) (by decide)

end SocketResult

end HesaiSdk.Lidar
