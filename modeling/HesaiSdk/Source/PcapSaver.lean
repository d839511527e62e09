import HesaiSdk.Source.PcapFrames
import HesaiSdk.Source.PcapPlayback

namespace HesaiSdk.Source

open Library.ByteLayout Lidar

/-- `PandarPacket`, with the `size` bytes of its buffer. -/
structure PandarPacket where
  port : UInt16
  buffer : List UInt8
deriving Inhabited

abbrev RecordTime := UInt32 × UInt32

def PandarPacket.ofUdpPacket (packet : UdpPacket) (port : ℤ) : PandarPacket :=
  ⟨UInt16.ofInt port, taken packet packet.packetLen.toNat⟩

/-- The record header and the data behind their fake header, as both ways of saving write them. -/
def PandarPacket.record (pkt : PandarPacket) (time : RecordTime) : List UInt8 :=
  let inclLen := UInt32.ofNat (pkt.buffer.length + sizeofPcapUDPHeader)
  PcapRecord.bytes ⟨time.1, time.2, inclLen, inclLen⟩ ++
    (pcapUDPHeader (UInt16.ofNat pkt.buffer.length) pkt.port ++ pkt.buffer)

/-- `Save(recordPath, packets, port)`; it never sets the times of its records. -/
structure SaveCall where
  packets : List (UdpPacket × RecordTime)
  port : ℤ

def SaveCall.records (call : SaveCall) : List UInt8 :=
  call.packets.flatMap fun (packet, time) => (PandarPacket.ofUdpPacket packet call.port).record time

def save (file : Option (List UInt8)) (call : SaveCall) : List UInt8 :=
  match file with
  | none => PcapHeader.recorded.bytes ++ call.records
  | some bytes => bytes ++ call.records

def saveAll (calls : List SaveCall) : Option (List UInt8) :=
  calls.foldl (fun file call => some (save file call)) none

def PandarPacket.frame (pkt : PandarPacket) : Frame where
  destinationMAC := Vector.replicate 6 0xff
  sourceMAC := #v[0x00, 0x0a, 0x35, 0x00, 0x1e, 0x53]
  tag := none
  network := .ipv4
    { typeOfService := 0
      identification := 0x7af1
      fragmentOffset := 0x4000
      timeToLive := 0x40
      checksum := 0xf880
      srceAddr := #v[0xc0, 0xa8, 0x01, 0xc9]
      distAddr := Vector.replicate 4 0xff }
  datagram := ⟨10000, pkt.port, 0, pkt.buffer⟩

lemma u16Bytes_swapped {x : ℕ} (hx : x < 65536) : u16Bytes (swapped x) = beBytes 2 x := by
  have hlow : (x % 256 * 256 + x / 256) % 256 = x / 256 := by omega
  have hhigh : (x % 256 * 256 + x / 256) / 256 = x % 256 := by omega
  have h0 : UInt8.ofNat (x % 256 * 256 + x / 256) = UInt8.ofNat (x / 256) := by
    rw [← UInt8.toNat_inj, UInt8.toNat_ofNat', UInt8.toNat_ofNat']
    omega
  have h1 : UInt8.ofNat (x % 256) = UInt8.ofNat x := by
    rw [← UInt8.toNat_inj, UInt8.toNat_ofNat', UInt8.toNat_ofNat']
    omega
  rw [u16Bytes, toNat_swapped hx, beBytes]
  simp only [leBytes, hhigh, h0, h1, List.reverse_cons, List.reverse_nil, List.nil_append, List.singleton_append]

namespace PandarPacket

variable {pkt : PandarPacket} {time : RecordTime}

lemma bytes_frame (h : pkt.buffer.length ≤ 1458) :
    pcapUDPHeader (UInt16.ofNat pkt.buffer.length) pkt.port ++ pkt.buffer = pkt.frame.bytes := by
  have hlen : (UInt16.ofNat pkt.buffer.length).toNat = pkt.buffer.length := by
    rw [UInt16.toNat_ofNat']
    omega
  have hlen8 : (UInt16.ofNat pkt.buffer.length + 8).toNat = pkt.buffer.length + 8 := by
    rw [UInt16.toNat_add, hlen]
    simp only [UInt16.reduceToNat]
    omega
  have hport : pkt.port.toNat < 65536 := pkt.port.toNat_lt
  have htotal : u16Bytes (swapped (pkt.buffer.length + 8 + 20)) = beBytes 2 (20 + (8 + pkt.buffer.length)) := by
    rw [u16Bytes_swapped (by omega)]
    congr 1
    omega
  have hudp : u16Bytes (swapped (pkt.buffer.length + 8)) = beBytes 2 (8 + pkt.buffer.length) := by
    rw [u16Bytes_swapped (by omega), Nat.add_comm]
  rw [pcapUDPHeader, pcapIPHeader, hlen8, htotal, UDP.bytes, pcapUDP, hlen, hudp, u16Bytes_swapped hport]
  simp only [Frame.bytes, frame, Frame.tagBytes, Network.etherType, Network.bytes, IPv4.bytes, Datagram.bytes,
    Datagram.length, List.append_assoc, List.nil_append]
  rfl

lemma length_frame : pkt.frame.bytes.length = pkt.buffer.length + sizeofPcapUDPHeader := by
  rw [Frame.length_bytes, sizeofPcapUDPHeader]
  simp only [frame, Frame.tagBytes, Network.size, List.length_nil]
  omega

def recordHeader (pkt : PandarPacket) (time : RecordTime) : PcapRecord :=
  let inclLen := UInt32.ofNat (pkt.buffer.length + sizeofPcapUDPHeader)
  ⟨time.1, time.2, inclLen, inclLen⟩

lemma record_eq (h : pkt.buffer.length ≤ 1458) :
    pkt.record time = (pkt.recordHeader time).bytes ++ pkt.frame.bytes := by
  rw [record, bytes_frame h]
  rfl

lemma inclLen_recordHeader (h : pkt.buffer.length ≤ 1458) :
    (pkt.recordHeader time).inclLen.toNat = pkt.frame.bytes.length := by
  rw [length_frame]
  change (UInt32.ofNat _).toNat = _
  rw [UInt32.toNat_ofNat', sizeofPcapUDPHeader]
  omega

end PandarPacket

def records (pkts : List (PandarPacket × RecordTime)) : List UInt8 := pkts.flatMap fun p => p.1.record p.2

structure Played where
  len : ℤ
  bytes : List UInt8
  port : ℤ

def Received.played (r : Received) : Played :=
  ⟨r.ret, taken r.packet r.ret.toNat, r.source.distinationPort.toNat⟩

def PandarPacket.played (pkt : PandarPacket) : Played := ⟨pkt.buffer.length, pkt.buffer, pkt.port.toNat⟩

namespace PcapSource

variable {s : PcapSource}

def plays (args : ℕ → UdpPacket) : ℕ → PcapSource → List Played
  | 0, _ => []
  | k + 1, s => (s.next (args 0)).played :: plays (fun i => args (i + 1)) k (s.next (args 0)).source

lemma next_record (packet : UdpPacket) {pkt : PandarPacket} {time : RecordTime} {tail : List UInt8}
    (hinside : s.Inside)
    (hrest : s.rest = pkt.record time ++ tail) (hlen : pkt.buffer.length ≤ 1458) :
    (s.next packet).played = pkt.played ∧ GoesOnTo s tail (s.next packet).source := by
  have hincl : (pkt.recordHeader time).inclLen.toNat = pkt.frame.bytes.length :=
    PandarPacket.inclLen_recordHeader hlen
  rw [PandarPacket.record_eq hlen, List.append_assoc] at hrest
  constructor
  · have hmem : Holds (s.afterRecord (pkt.recordHeader time) pkt.frame.bytes).payload 0 pkt.frame.bytes :=
      holds_overlay pkt.frame.bytes
    have hfit : pkt.buffer.length ≤ kBufSize := hlen.trans (by decide)
    have hmax : pkt.frame.bytes.length ≤ 1500 := by
      rw [PandarPacket.length_frame, sizeofPcapUDPHeader]
      omega
    have hsize : (s.afterRecord (pkt.recordHeader time) pkt.frame.bytes).inclLen = 42 + pkt.buffer.length := by
      refine hincl.trans ?_
      rw [PandarPacket.length_frame, sizeofPcapUDPHeader, Nat.add_comm]
    obtain ⟨hret, hbytes, hport⟩ := ipv4_delivers packet hmem hsize hfit
    rw [← next_of_rest hrest hincl (sizeofEthernet_lt _) hmax] at hret hbytes hport
    rw [Received.played, PandarPacket.played, hret, hport, Int.toNat_natCast]
    exact congrArg (fun bytes => Played.mk _ bytes _) hbytes
  · exact goesOn_of_whole packet hinside hrest hincl.symm

lemma plays_records {pkts : List (PandarPacket × RecordTime)} (args : ℕ → UdpPacket) (hinside : s.Inside)
    (hrest : s.rest = records pkts)
    (hlen : ∀ p ∈ pkts, p.1.buffer.length ≤ 1458) :
    plays args pkts.length s = pkts.map (fun p => p.1.played) ∧
      GoesOnTo s [] (receives args pkts.length s) := by
  induction pkts generalizing s args with
  | nil => exact ⟨rfl, hinside, hrest, rfl⟩
  | cons p pkts ih =>
    rw [records, List.flatMap_cons] at hrest
    obtain ⟨hplayed, hin, htail, hend⟩ :=
      next_record (args 0) hinside hrest (hlen _ List.mem_cons_self)
    obtain ⟨hplays, hgoes⟩ := ih (fun i => args (i + 1)) hin htail fun q hq => hlen q (List.mem_cons_of_mem _ hq)
    refine ⟨?_, hgoes.1, hgoes.2.1, hgoes.2.2.trans hend⟩
    rw [List.length_cons, plays, hplayed, hplays, List.map_cons]

def payloads (args : ℕ → UdpPacket) : ℕ → PcapSource → List (List UInt8)
  | 0, _ => []
  | fuel + 1, s =>
    if (s.next (args 0)).ret = -1 then []
    else (s.next (args 0)).played.bytes :: payloads (fun i => args (i + 1)) fuel (s.next (args 0)).source

lemma payloads_records {pkts : List (PandarPacket × RecordTime)} {fuel : ℕ} (args : ℕ → UdpPacket)
    (hinside : s.Inside) (hrest : s.rest = records pkts) (hlen : ∀ p ∈ pkts, p.1.buffer.length ≤ 1458)
    (hfuel : pkts.length < fuel) : payloads args fuel s = pkts.map fun p => p.1.buffer := by
  induction pkts generalizing s args fuel with
  | nil =>
    cases fuel with
    | zero => exact absurd hfuel (Nat.not_lt_zero _)
    | succ fuel => rw [payloads, next_of_empty hinside hrest, if_pos rfl, List.map_nil]
  | cons p pkts ih =>
    cases fuel with
    | zero => exact absurd hfuel (Nat.not_lt_zero _)
    | succ fuel =>
      rw [records, List.flatMap_cons] at hrest
      obtain ⟨hplayed, hin, htail, -⟩ := next_record (args 0) hinside hrest (hlen _ List.mem_cons_self)
      have hret : (s.next (args 0)).ret = p.1.buffer.length := congrArg Played.len hplayed
      rw [payloads, if_neg (by omega), hplayed, List.map_cons]
      refine congrArg (p.1.buffer :: ·) ?_
      exact ih _ hin htail (fun q hq => hlen q (List.mem_cons_of_mem _ hq)) (Nat.lt_of_succ_lt_succ hfuel)

lemma openFile_recorded (s : PcapSource) (records : List UInt8) :
    (s.openFile (some (PcapHeader.recorded.bytes ++ records))).1 = true ∧
      behindHeader (PcapHeader.recorded.bytes ++ records) = records := by
  have hlen : ¬sizeofPcapHeader > (PcapHeader.recorded.bytes ++ records).length := by
    rw [List.length_append, PcapHeader.length_bytes]
    omega
  have htake : (PcapHeader.recorded.bytes ++ records).take sizeofPcapHeader = PcapHeader.recorded.bytes := by
    rw [← PcapHeader.length_bytes (h := PcapHeader.recorded), List.take_left]
  constructor
  · rw [openFile, read]
    simp only [close, Nat.zero_add, if_neg hlen, List.drop_zero, htake]
    rw [PcapHeader.readAt_of_holds (holds_overlay _)]
    rfl
  · rw [behindHeader, if_neg hlen, ← PcapHeader.length_bytes (h := PcapHeader.recorded), List.drop_left]

end PcapSource

def saved (calls : List SaveCall) : List (PandarPacket × RecordTime) :=
  calls.flatMap fun call =>
    call.packets.map fun (packet, time) => (PandarPacket.ofUdpPacket packet call.port, time)

def sent (calls : List SaveCall) : List Played :=
  calls.flatMap fun call => call.packets.map fun (packet, _) =>
    ⟨packet.packetLen, taken packet packet.packetLen.toNat, call.port⟩

lemma records_saved_cons (call : SaveCall) (calls : List SaveCall) :
    records (saved (call :: calls)) = call.records ++ records (saved calls) := by
  rw [records, saved, List.flatMap_cons, List.flatMap_append, SaveCall.records, List.flatMap_map]
  rfl

lemma foldl_save (calls : List SaveCall) (bytes : List UInt8) :
    calls.foldl (fun file call => some (save file call)) (some bytes) = some (bytes ++ records (saved calls)) := by
  induction calls generalizing bytes with
  | nil => simp [records, saved]
  | cons call calls ih => rw [List.foldl_cons, ih, save, records_saved_cons, List.append_assoc]

lemma saveAll_eq {calls : List SaveCall} (hne : calls ≠ []) :
    saveAll calls = some (PcapHeader.recorded.bytes ++ records (saved calls)) := by
  cases calls with
  | nil => exact absurd rfl hne
  | cons call calls => rw [saveAll, List.foldl_cons, foldl_save, save, records_saved_cons, List.append_assoc]

lemma played_ofUdpPacket {packet : UdpPacket} {port : ℤ} (hlen : 1 ≤ packet.packetLen ∧ packet.packetLen ≤ 1458)
    (hport : 0 ≤ port ∧ port < 65536) : (PandarPacket.ofUdpPacket packet port).buffer.length ≤ 1458 ∧
      (PandarPacket.ofUdpPacket packet port).played =
        ⟨packet.packetLen, taken packet packet.packetLen.toNat, port⟩ := by
  have hbuffer : ((PandarPacket.ofUdpPacket packet port).buffer.length : ℤ) = packet.packetLen := by
    rw [PandarPacket.ofUdpPacket, length_taken (by rw [kBufSize]; omega)]
    omega
  have hp : ((UInt16.ofInt port).toNat : ℤ) = port := by
    rw [UInt16.ofInt, UInt16.toNat_ofNat']
    omega
  refine ⟨by omega, ?_⟩
  rw [PandarPacket.played, hbuffer]
  exact congrArg _ hp

lemma map_played_saved {calls : List SaveCall}
    (hlen : ∀ call ∈ calls, ∀ p ∈ call.packets, 1 ≤ p.1.packetLen ∧ p.1.packetLen ≤ 1458)
    (hport : ∀ call ∈ calls, 0 ≤ call.port ∧ call.port < 65536) :
    (∀ p ∈ saved calls, p.1.buffer.length ≤ 1458) ∧ (saved calls).map (fun p => p.1.played) = sent calls := by
  constructor
  · intro p hp
    obtain ⟨call, hcall, hp⟩ := List.mem_flatMap.mp hp
    obtain ⟨q, hq, rfl⟩ := List.mem_map.mp hp
    exact (played_ofUdpPacket (hlen call hcall q hq) (hport call hcall)).1
  · rw [saved, sent, List.map_flatMap]
    refine List.flatMap_congr fun call hcall => ?_
    rw [List.map_map]
    refine List.map_congr_left fun q hq => ?_
    exact (played_ofUdpPacket (hlen call hcall q hq) (hport call hcall)).2

/-- Saving and playing back: the packets of all calls come back in order, then the end. -/
theorem plays_saveAll (s : PcapSource) (args : ℕ → UdpPacket) (packet : UdpPacket) (calls : List SaveCall)
    (hne : calls ≠ [])
    (hlen : ∀ call ∈ calls, ∀ p ∈ call.packets, 1 ≤ p.1.packetLen ∧ p.1.packetLen ≤ 1458)
    (hport : ∀ call ∈ calls, 0 ≤ call.port ∧ call.port < 65536) :
    (s.openFile (saveAll calls)).1 = true ∧
      PcapSource.plays args (sent calls).length (s.openFile (saveAll calls)).2 = sent calls ∧
      ((PcapSource.receives args (sent calls).length (s.openFile (saveAll calls)).2).next packet).ret = -1 ∧
      ((PcapSource.receives args (sent calls).length (s.openFile (saveAll calls)).2).next packet).source.isPcapEnd =
        true := by
  obtain ⟨hsmall, hsent⟩ := map_played_saved hlen hport
  have hcount : (sent calls).length = (saved calls).length := by rw [← hsent, List.length_map]
  rw [saveAll_eq hne, hcount, ← hsent]
  obtain ⟨hopen, hbehind⟩ := s.openFile_recorded (records (saved calls))
  obtain ⟨hinside, hrest, -⟩ := s.openFile_some (PcapHeader.recorded.bytes ++ records (saved calls))
  rw [hbehind] at hrest
  obtain ⟨hplays, hin, hnil, -⟩ := PcapSource.plays_records args hinside hrest hsmall
  refine ⟨hopen, hplays, ?_, ?_⟩
  · rw [PcapSource.next_of_empty hin hnil]
  · rw [PcapSource.next_of_empty hin hnil]

def exampleCalls : List SaveCall :=
  [⟨[(UdpPacket.ofBytes [1, 2], (0, 0)), (UdpPacket.ofBytes [3], (0, 0))], 2368⟩,
    ⟨[(UdpPacket.ofBytes [4], (0, 0))], 65535⟩]

theorem plays_saveAll_two : ((default : PcapSource).openFile (saveAll exampleCalls)).1 = true ∧
    PcapSource.plays (fun _ => default) 3 ((default : PcapSource).openFile (saveAll exampleCalls)).2 =
      sent exampleCalls := by
  obtain ⟨hopen, hplays, -⟩ :=
    plays_saveAll default (fun _ => default) default exampleCalls (by decide) (by decide) (by decide)
  exact ⟨hopen, hplays⟩

end HesaiSdk.Source
