import HesaiSdk.Lidar.Recording

/-! The buffer `data_with_fake_header` of both ways of saving, against the packets that reach them. -/

namespace HesaiSdk.Source

open Lidar

inductive BufferAccess where
  | store (o n : ℕ)
  | load (o n : ℕ)

def BufferAccess.Inside (size : ℕ) : BufferAccess → Prop
  | store o n => o + n ≤ size
  | load o n => o + n ≤ size

/-- The fake header, the copy behind it and the `write` to the file. -/
def PandarPacket.recordAccesses (pkt : PandarPacket) : List BufferAccess :=
  [.store 0 sizeofPcapUDPHeader, .store sizeofPcapUDPHeader pkt.buffer.length,
    .load 0 (UInt32.ofNat (pkt.buffer.length + sizeofPcapUDPHeader)).toNat]

/-- The branch of `next` that reads the body of a record instead of moving past it. -/
def PcapSource.Keeps (s : PcapSource) : Prop := s.inclLen ≤ 1500 ∧ sizeofEthernet < s.inclLen

structure PandarPacket.RecordedSafely (pkt : PandarPacket) : Prop where
  copied : ∀ a ∈ pkt.recordAccesses, a.Inside 1500
  kept : ∀ (time : RecordTime) (s : PcapSource) (tail : List UInt8), s.rest = pkt.record time ++ tail →
    ∃ t, s.readRecord = some t ∧ t.Keeps

lemma recordedSafely_iff {pkt : PandarPacket} (hlen : pkt.buffer.length ≤ kBufSize) :
    pkt.RecordedSafely ↔ pkt.buffer.length ≤ 1458 := by
  have hsize : (UInt32.ofNat (pkt.buffer.length + sizeofPcapUDPHeader)).toNat = pkt.buffer.length + 42 := by
    rw [kBufSize] at hlen
    rw [UInt32.toNat_ofNat', sizeofPcapUDPHeader]
    omega
  constructor
  · intro h
    have hcopy : sizeofPcapUDPHeader + pkt.buffer.length ≤ 1500 :=
      h.copied (.store sizeofPcapUDPHeader pkt.buffer.length) (by simp [PandarPacket.recordAccesses])
    rw [sizeofPcapUDPHeader] at hcopy
    omega
  · intro hsmall
    constructor
    · intro a ha
      rw [PandarPacket.recordAccesses, hsize] at ha
      simp only [List.mem_cons, List.not_mem_nil, or_false] at ha
      obtain rfl | rfl | rfl := ha
      · exact (by decide : 0 + sizeofPcapUDPHeader ≤ 1500)
      · change sizeofPcapUDPHeader + pkt.buffer.length ≤ 1500
        rw [sizeofPcapUDPHeader]
        omega
      · change 0 + (pkt.buffer.length + 42) ≤ 1500
        omega
    · intro time s tail hrest
      have hheader : s.rest = (pkt.recordHeader time).bytes ++ (pkt.frame.bytes ++ tail) := by
        rw [hrest, PandarPacket.record_eq hsmall, List.append_assoc]
      refine ⟨s.afterHeader (pkt.recordHeader time), PcapSource.readRecord_of_header hheader, ?_⟩
      have hincl : (s.afterHeader (pkt.recordHeader time)).inclLen = pkt.buffer.length + 42 := hsize
      rw [PcapSource.Keeps, hincl, sizeofEthernet]
      omega

end HesaiSdk.Source

namespace HesaiSdk.Lidar

open Container Source Library.Transition

namespace Recorder

variable {port : UInt16} {b : Bool} {s t : Recorder} {rs : List Reception}

def handed (s : Recorder) : List PandarPacket := s.packetsCache.pushed ++ s.dumping.toList

def Admitted (rs : List Reception) : Prop := ∀ len packet, .datagram len packet ∈ rs → 1 ≤ len ∧ len ≤ kBufSize

lemma mem_dumps_of_datagram {len : ℕ} {packet : UdpPacket} (h : .datagram len packet ∈ rs) (hlen : 1 ≤ len)
    (hgps : (len : ℤ) ≠ GPS_PACKET_LEN) :
    ⟨UInt16.ofInt port.toNat, taken packet len⟩ ∈ dumps port b rs := by
  induction rs generalizing b with
  | nil => exact absurd h List.not_mem_nil
  | cons r rs ih =>
    rw [dumps]
    cases List.mem_cons.mp h with
    | inl hhead =>
      apply List.mem_append_left
      rw [← hhead, dumped_datagram hlen, if_neg hgps, Option.toList_some]
      exact List.mem_cons_self
    | inr htail => exact List.mem_append_right _ (ih htail)

lemma recordedSafely_handed_iff (hs : s.Faithful port b) (hadmitted : Admitted s.received) :
    (∀ pkt ∈ s.handed, pkt.RecordedSafely) ↔ ∀ len packet, .datagram len packet ∈ s.received → len ≤ 1458 := by
  rw [handed, hs.pushed]
  constructor
  · intro h len packet hmem
    obtain ⟨hmin, hmax⟩ := hadmitted len packet hmem
    by_cases hgps : (len : ℤ) = GPS_PACKET_LEN
    · rw [GPS_PACKET_LEN] at hgps
      omega
    · have hsafe := h _ (mem_dumps_of_datagram hmem hmin hgps)
      have hbuffer : (⟨UInt16.ofInt port.toNat, taken packet len⟩ : PandarPacket).buffer.length = len :=
        length_taken hmax
      rwa [recordedSafely_iff (hbuffer.trans_le hmax), hbuffer] at hsafe
  · intro h pkt hpkt
    have hfits : Fits s.received := fun len packet hr => ⟨(hadmitted len packet hr).1, h len packet hr⟩
    have hsmall := dumps_small hfits pkt hpkt
    exact (recordedSafely_iff (hsmall.trans (by decide))).mpr hsmall

lemma recordedSafely_ofUdpPacket_iff {packet : UdpPacket} {udpPort : ℤ}
    (hlen : 1 ≤ packet.packetLen ∧ packet.packetLen ≤ kBufSize) :
    (PandarPacket.ofUdpPacket packet udpPort).RecordedSafely ↔ packet.packetLen ≤ 1458 := by
  have htaken : (PandarPacket.ofUdpPacket packet udpPort).buffer.length = packet.packetLen.toNat :=
    length_taken (by omega)
  rw [recordedSafely_iff (by omega), htaken]
  omega

/-- Behind the fake header there is room for 1458 bytes, and so many are not skipped: whatever is received,
and whatever is handed to `Save`. -/
theorem recordedSafely_all_iff (port : UInt16) (b : Bool) (origin : BlockingRing UdpPacket kPacketBufferSize)
    (memory : Fin (32 * 1024) → PandarPacket) (s : Recorder)
    (hs : Reaches (step port) (fun _ _ => True) (start b origin memory) s) (hadmitted : Admitted s.received)
    (call : SaveCall) (hcall : ∀ p ∈ call.packets, 1 ≤ p.1.packetLen ∧ p.1.packetLen ≤ kBufSize) :
    ((∀ pkt ∈ s.handed, pkt.RecordedSafely) ↔
      ∀ len packet, .datagram len packet ∈ s.received → len ≤ 1458) ∧
    ((∀ p ∈ call.packets, (PandarPacket.ofUdpPacket p.1 call.port).RecordedSafely) ↔
      ∀ p ∈ call.packets, p.1.packetLen ≤ 1458) := by
  constructor
  · have hfaithful : s.Faithful port b :=
      reaches_invariant (fun _ _ _ _ hs h => step_faithful hs h) hs (start_faithful b origin memory)
    exact recordedSafely_handed_iff hfaithful hadmitted
  · exact forall₂_congr fun p hp => recordedSafely_ofUdpPacket_iff (hcall p hp)

def longDatagram : Reception := .datagram 1459 default

lemma admitted_longDatagram : Admitted [longDatagram] := by
  intro len packet h
  obtain ⟨rfl, -⟩ := Reception.datagram.inj (List.mem_singleton.mp h)
  decide

theorem recordedSafely_all_iff_received : ∃ s, Reaches (step 2368) (fun _ _ => True) (startRecord false) s ∧
    s.received = [longDatagram] ∧ ((∀ pkt ∈ s.handed, pkt.RecordedSafely) ↔
      ∀ len packet, .datagram len packet ∈ s.received → len ≤ 1458) := by
  obtain ⟨s, hexec⟩ : ∃ s, exec (step 2368) (oneResult longDatagram) (startRecord false) = some s := ⟨_, rfl⟩
  have hs := reaches_of_exec hexec
  obtain rfl := Option.some.inj hexec
  refine ⟨_, hs, rfl, ?_⟩
  exact (recordedSafely_all_iff 2368 false _ _ _ hs admitted_longDatagram ⟨[], 2368⟩ (by simp)).1

/-- 1459 bytes: the receiver admits them, the record does not fit. -/
theorem handed_not_recordedSafely : ∃ s, Reaches (step 2368) (fun _ _ => True) (startRecord false) s ∧
    Admitted s.received ∧ ¬∀ pkt ∈ s.handed, pkt.RecordedSafely := by
  obtain ⟨s, hexec⟩ : ∃ s, exec (step 2368) (oneResult longDatagram) (startRecord false) = some s := ⟨_, rfl⟩
  have hs := reaches_of_exec hexec
  obtain rfl := Option.some.inj hexec
  refine ⟨_, hs, admitted_longDatagram, fun h => ?_⟩
  have hfaithful := reaches_invariant (fun _ _ _ _ hs h => step_faithful hs h) hs (start_faithful false _ _)
  have hsmall := (recordedSafely_handed_iff hfaithful admitted_longDatagram).mp h 1459 default List.mem_cons_self
  exact absurd hsmall (by decide)

end Recorder

end HesaiSdk.Lidar
