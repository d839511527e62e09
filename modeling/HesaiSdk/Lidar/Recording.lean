import HesaiSdk.Container.BlockingRing
import HesaiSdk.Lidar.Receiving
import HesaiSdk.Source.PcapSaver

/-! The receive thread and the dumping thread while a recording is active. -/

namespace HesaiSdk.Lidar

open Container Source Library.Transition

/-- The threads' data. `dumping` is the packet that `RecieveUdpThread` has handed to `Dump` and that is not in
the cache yet; `received` only records. -/
structure Recorder where
  isTimeout : Bool
  originPacketsBuffer : BlockingRing UdpPacket kPacketBufferSize
  dumping : Option PandarPacket
  packetsCache : BlockingRing PandarPacket (32 * 1024)
  file : List UInt8
  received : List Reception

inductive RecordAction where
  | receive (reception : Reception)
  | dump
  | write (time : RecordTime)
  | getOnePacket (timeout : Bool)

namespace Recorder

def dumped (port : UInt16) (packet : UdpPacket) : Option PandarPacket :=
  if 0 < packet.packetLen then some (PandarPacket.ofUdpPacket packet port.toNat) else none

/-- A turn of `RecieveUdpThread` up to `Dump`; it waits while `origin_packets_buffer_` is full. -/
def receive (port : UInt16) (reception : Reception) (s : Recorder) : Option Recorder :=
  if s.dumping.isSome ∨ reception.isError = false ∧ s.originPacketsBuffer.ring.full then none
  else
    let switched := reception.switched s.isTimeout
    let buffer := if switched.emplaced then s.originPacketsBuffer.push switched.packet else some s.originPacketsBuffer
    buffer.map fun buffer => { s with
      isTimeout := switched.isTimeout
      originPacketsBuffer := buffer
      dumping := dumped port switched.packet
      received := s.received ++ [reception] }

def dump (s : Recorder) : Option Recorder :=
  s.dumping.bind fun pkt =>
    (s.packetsCache.push pkt).map fun cache => { s with packetsCache := cache, dumping := none }

def write (time : RecordTime) (s : Recorder) : Option Recorder :=
  s.packetsCache.popFront.map fun r => { s with packetsCache := r.2, file := s.file ++ r.1.record time }

def getOnePacket (timeout : Bool) (s : Recorder) : Option Recorder :=
  (s.originPacketsBuffer.tryPopFront timeout).map fun r => { s with originPacketsBuffer := r.2 }

def step (port : UInt16) (s : Recorder) : RecordAction → Option Recorder
  | .receive reception => s.receive port reception
  | .dump => s.dump
  | .write time => s.write time
  | .getOnePacket timeout => s.getOnePacket timeout

def start (isTimeout : Bool) (originPacketsBuffer : BlockingRing UdpPacket kPacketBufferSize)
    (memory : Fin (32 * 1024) → PandarPacket) : Recorder where
  isTimeout := isTimeout
  originPacketsBuffer := originPacketsBuffer
  dumping := none
  packetsCache := BlockingRing.start (by decide) memory
  file := PcapHeader.recorded.bytes
  received := []

def flagAfter (isTimeout : Bool) : List Reception → Bool
  | [] => isTimeout
  | r :: rs => flagAfter (r.switched isTimeout).isTimeout rs

def dumps (port : UInt16) (isTimeout : Bool) : List Reception → List PandarPacket
  | [] => []
  | r :: rs => (dumped port (r.switched isTimeout).packet).toList ++ dumps port (r.switched isTimeout).isTimeout rs

structure Faithful (port : UInt16) (isTimeout : Bool) (s : Recorder) : Prop where
  flag : s.isTimeout = flagAfter isTimeout s.received
  lossless : s.packetsCache.Lossless
  pushed : s.packetsCache.pushed ++ s.dumping.toList = dumps port isTimeout s.received
  file : ∃ pkts : List (PandarPacket × RecordTime),
    s.file = PcapHeader.recorded.bytes ++ records pkts ∧ pkts.map Prod.fst = s.packetsCache.popped

variable {port : UInt16} {b : Bool} {s t : Recorder} {r : Reception} {rs : List Reception}

lemma flagAfter_append : flagAfter b (rs ++ [r]) = (r.switched (flagAfter b rs)).isTimeout := by
  induction rs generalizing b with
  | nil => rfl
  | cons q rs ih => exact ih

lemma dumps_append : dumps port b (rs ++ [r]) =
    dumps port b rs ++ (dumped port (r.switched (flagAfter b rs)).packet).toList := by
  induction rs generalizing b with
  | nil => rw [List.nil_append, dumps, dumps, dumps, List.append_nil, List.nil_append, flagAfter]
  | cons q rs ih => rw [List.cons_append, dumps, ih, dumps, List.append_assoc, flagAfter]

lemma receive_faithful (hs : s.Faithful port b) (h : s.receive port r = some t) : t.Faithful port b := by
  rw [receive] at h
  split_ifs at h with hwait
  obtain ⟨buffer, -, rfl⟩ := Option.map_eq_some_iff.mp h
  have hnone : s.dumping = none := by
    rw [← Option.not_isSome_iff_eq_none]
    exact fun hsome => hwait (Or.inl hsome)
  have hpushed := hs.pushed
  rw [hnone, Option.toList_none, List.append_nil] at hpushed
  refine ⟨?_, hs.lossless, ?_, hs.file⟩
  · rw [flagAfter_append, ← hs.flag]
  · rw [dumps_append, ← hs.flag, hpushed]

lemma dump_faithful (hs : s.Faithful port b) (h : s.dump = some t) : t.Faithful port b := by
  obtain ⟨pkt, hpkt, h⟩ := Option.bind_eq_some_iff.mp h
  obtain ⟨cache, hcache, rfl⟩ := Option.map_eq_some_iff.mp h
  have hpushed := hs.pushed
  rw [hpkt, Option.toList_some] at hpushed
  obtain ⟨hin, hout⟩ := BlockingRing.push_lists hcache
  refine ⟨hs.flag, BlockingRing.push_lossless hs.lossless hcache, ?_, ?_⟩
  · rw [hin, Option.toList_none, List.append_nil]
    exact hpushed
  · rw [hout]
    exact hs.file

lemma write_faithful {time : RecordTime} (hs : s.Faithful port b) (h : s.write time = some t) :
    t.Faithful port b := by
  obtain ⟨⟨pkt, cache⟩, hcache, rfl⟩ := Option.map_eq_some_iff.mp h
  obtain ⟨hin, hout⟩ := BlockingRing.popFront_lists hcache
  refine ⟨hs.flag, BlockingRing.popFront_lossless hs.lossless hcache, ?_, ?_⟩
  · rw [hin]
    exact hs.pushed
  · obtain ⟨pkts, hfile, hfst⟩ := hs.file
    refine ⟨pkts ++ [(pkt, time)], ?_, ?_⟩
    · rw [hfile, List.append_assoc, records, records, List.flatMap_append, List.flatMap_singleton]
    · rw [hout, List.map_append, hfst, List.map_singleton]

lemma step_faithful {a : RecordAction} (hs : s.Faithful port b) (h : s.step port a = some t) : t.Faithful port b := by
  cases a with
  | receive r => exact receive_faithful hs h
  | dump => exact dump_faithful hs h
  | write time => exact write_faithful hs h
  | getOnePacket timeout =>
    obtain ⟨q, -, rfl⟩ := Option.map_eq_some_iff.mp h
    exact ⟨hs.flag, hs.lossless, hs.pushed, hs.file⟩

/-- The datagrams received, without those of the skipped GPS length. -/
def datagrams (rs : List Reception) : List (List UInt8) :=
  rs.filterMap fun
    | .datagram len packet => if (len : ℤ) = GPS_PACKET_LEN then none else some (taken packet len)
    | _ => none

/-- Every timeout finds `is_timeout_` set: it was set at the start, and no lidar data came before. -/
def NoMarker (isTimeout : Bool) (rs : List Reception) : Prop :=
  ∀ pre post packet, rs = pre ++ .timeout packet :: post → isTimeout = true ∧ ∀ r ∈ pre, ¬r.IsData

def Fits (rs : List Reception) : Prop := ∀ len packet, .datagram len packet ∈ rs → 1 ≤ len ∧ len ≤ 1458

lemma Fits.cons (h : Fits (r :: rs)) : Fits rs := fun len packet hr => h len packet (List.mem_cons_of_mem _ hr)

lemma switched_timeout {packet : UdpPacket} : ((Reception.timeout packet).switched b).isTimeout = true := by
  cases b <;> rfl

lemma switched_datagram {len : ℕ} {packet : UdpPacket} (hlen : 1 ≤ len) :
    ((Reception.datagram len packet).switched b).isTimeout = true ↔
      b = true ∧ ¬(Reception.datagram len packet).IsData := by
  have h0 : ¬(len : ℤ) = 0 := by omega
  have hne : len ≠ 0 := by omega
  have hpos : 0 < (len : ℤ) := by omega
  rw [Reception.switched, switchLen, if_neg h0, Reception.IsData]
  by_cases hfault : (len : ℤ) = kFaultMessageLength
  · simp [hfault]
  rw [if_neg hfault]
  by_cases hgps : (len : ℤ) = GPS_PACKET_LEN
  · rw [if_pos hgps]
    simp [hgps]
  · rw [if_neg hgps, if_pos hpos]
    simp [hfault, hgps, hne]

lemma dumped_datagram {len : ℕ} {packet : UdpPacket} (hlen : 1 ≤ len) :
    dumped port ((Reception.datagram len packet).switched b).packet =
      if (len : ℤ) = GPS_PACKET_LEN then none else some ⟨UInt16.ofInt port.toNat, taken packet len⟩ := by
  have h0 : ¬(len : ℤ) = 0 := by omega
  have hpos : 0 < (len : ℤ) := by omega
  rw [Reception.switched, switchLen, if_neg h0]
  by_cases hgps : (len : ℤ) = GPS_PACKET_LEN
  · rw [if_neg (by rw [hgps]; decide), if_pos hgps, if_pos hgps]
    rfl
  · rw [if_neg hgps, if_neg hgps, if_pos hpos]
    split_ifs <;> exact if_pos hpos

lemma dumped_timeout {packet : UdpPacket} : dumped port ((Reception.timeout packet).switched b).packet =
    if b = true then none else some (PandarPacket.ofUdpPacket (timeoutMarker packet) port.toNat) := by
  cases b <;> rfl

lemma noMarker_cons (hfits : Fits (r :: rs)) : NoMarker b (r :: rs) ↔
    (∀ packet, r = .timeout packet → b = true) ∧ NoMarker (r.switched b).isTimeout rs := by
  constructor
  · intro h
    refine ⟨fun packet hr => (h [] rs packet (by rw [hr]; rfl)).1, fun pre post packet hrs => ?_⟩
    obtain ⟨hb, hquiet⟩ := h (r :: pre) post packet (by rw [hrs]; rfl)
    refine ⟨?_, fun q hq => hquiet q (List.mem_cons_of_mem _ hq)⟩
    cases r with
    | error => exact hb
    | timeout packet => exact switched_timeout
    | datagram len packet =>
      exact (switched_datagram (hfits len packet List.mem_cons_self).1).mpr ⟨hb, hquiet _ List.mem_cons_self⟩
  · rintro ⟨htimeout, hrest⟩ pre post packet hrs
    cases pre with
    | nil => exact ⟨htimeout packet (List.cons.inj hrs).1, fun q hq => absurd hq List.not_mem_nil⟩
    | cons q pre =>
      have htail := (List.cons.inj hrs).2
      obtain rfl := (List.cons.inj hrs).1
      obtain ⟨hflag, hquiet⟩ := hrest pre post packet htail
      have hhead : b = true ∧ ¬r.IsData := by
        cases r with
        | error => exact ⟨hflag, fun h => h⟩
        | timeout packet => exact ⟨htimeout packet rfl, fun h => h⟩
        | datagram len packet => exact (switched_datagram (hfits len packet List.mem_cons_self).1).mp hflag
      exact ⟨hhead.1, List.forall_mem_cons.mpr ⟨hhead.2, hquiet⟩⟩

lemma datagrams_cons : datagrams (r :: rs) = (match r with
    | .datagram len packet => if (len : ℤ) = GPS_PACKET_LEN then [] else [taken packet len]
    | _ => []) ++ datagrams rs := by
  cases r with
  | error => rfl
  | timeout packet => rfl
  | datagram len packet =>
    simp only [datagrams, List.filterMap_cons]
    split_ifs <;> rfl

lemma length_datagrams_le (hfits : Fits rs) : (datagrams rs).length ≤ (dumps port b rs).length := by
  induction rs generalizing b with
  | nil => exact Nat.le_refl _
  | cons r rs ih =>
    have hrest := ih (b := (r.switched b).isTimeout) hfits.cons
    rw [datagrams_cons, dumps, List.length_append, List.length_append]
    refine Nat.add_le_add ?_ hrest
    cases r with
    | error => exact Nat.zero_le _
    | timeout packet => exact Nat.zero_le _
    | datagram len packet =>
      rw [dumped_datagram (hfits len packet List.mem_cons_self).1]
      simp only
      split_ifs <;> exact Nat.le_refl _

lemma dumps_eq_iff (hfits : Fits rs) :
    (dumps port b rs).map PandarPacket.buffer = datagrams rs ↔ NoMarker b rs := by
  induction rs generalizing b with
  | nil => exact iff_of_true rfl fun pre post packet h => absurd h (by simp)
  | cons r rs ih =>
    rw [noMarker_cons hfits, ← ih hfits.cons, datagrams_cons, dumps, List.map_append]
    cases r with
    | error => exact (and_iff_right fun packet h => nomatch h).symm
    | timeout packet =>
      rw [dumped_timeout]
      cases b with
      | true => exact (and_iff_right fun packet h => rfl).symm
      | false =>
        refine iff_of_false (fun h => ?_) fun h => absurd (h.1 packet rfl) Bool.false_ne_true
        have hlen := congrArg List.length h
        have hle : (datagrams rs).length ≤ (dumps port true rs).length := length_datagrams_le hfits.cons
        simp only [if_false, Bool.false_eq_true, Option.toList_some, List.length_append, List.length_map,
          List.length_cons, List.length_nil, switched_timeout] at hlen
        omega
    | datagram len packet =>
      rw [dumped_datagram (hfits len packet List.mem_cons_self).1]
      simp only [reduceCtorEq, false_imp_iff, implies_true, true_and]
      split_ifs with hgps
      · rfl
      · exact List.cons_inj_right _

lemma length_dumps_le : (dumps port b rs).length ≤ rs.length := by
  induction rs generalizing b with
  | nil => exact Nat.le_refl _
  | cons r rs ih =>
    have hrest := ih (b := (r.switched b).isTimeout)
    have hhead : (dumped port (r.switched b).packet).toList.length ≤ 1 := by
      cases dumped port (r.switched b).packet <;> simp
    rw [dumps, List.length_append, List.length_cons]
    omega

lemma length_dumps_buffer_le {n : ℕ} (hmarker : AT128E2X_PACKET_LEN.toNat ≤ n) (hn : n ≤ kBufSize)
    (hrs : ∀ len packet, .datagram len packet ∈ rs → 1 ≤ len ∧ len ≤ n) :
    ∀ pkt ∈ dumps port b rs, pkt.buffer.length ≤ n := by
  induction rs generalizing b with
  | nil => exact fun pkt h => absurd h List.not_mem_nil
  | cons r rs ih =>
    refine List.forall_mem_append.mpr ⟨fun pkt hpkt => ?_, ih fun len packet hr =>
      hrs len packet (List.mem_cons_of_mem _ hr)⟩
    rw [Option.mem_toList] at hpkt
    cases r with
    | error => exact absurd hpkt (Option.not_mem_none pkt)
    | timeout packet =>
      rw [dumped_timeout] at hpkt
      split_ifs at hpkt
      obtain rfl := Option.some.inj hpkt
      have hlen : (timeoutMarker packet).packetLen.toNat = AT128E2X_PACKET_LEN.toNat := rfl
      rw [PandarPacket.ofUdpPacket, hlen, length_taken (hmarker.trans hn)]
      exact hmarker
    | datagram len packet =>
      obtain ⟨hmin, hmax⟩ := hrs len packet List.mem_cons_self
      rw [dumped_datagram hmin] at hpkt
      split_ifs at hpkt
      obtain rfl := Option.some.inj hpkt
      exact (length_taken (hmax.trans hn)).le.trans hmax

lemma dumps_small (hfits : Fits rs) : ∀ pkt ∈ dumps port b rs, pkt.buffer.length ≤ 1458 :=
  length_dumps_buffer_le (by decide) (by decide) hfits

lemma start_faithful (b : Bool) (origin : BlockingRing UdpPacket kPacketBufferSize)
    (memory : Fin (32 * 1024) → PandarPacket) : (start b origin memory).Faithful port b :=
  ⟨rfl, rfl, rfl, [], (List.append_nil _).symm, rfl⟩

/-- The dumping thread has ended: nothing is on its way to the file. -/
def Closed (s : Recorder) : Prop := s.dumping = none ∧ s.packetsCache.ring.notEmpty = false

lemma file_of_closed (hs : s.Faithful port b) (hclosed : s.Closed) : ∃ pkts : List (PandarPacket × RecordTime),
    s.file = PcapHeader.recorded.bytes ++ records pkts ∧ pkts.map Prod.fst = dumps port b s.received := by
  obtain ⟨pkts, hfile, hfst⟩ := hs.file
  have hempty : s.packetsCache.ring.contents = [] := by
    rw [← List.length_eq_zero_iff, Ring.length_contents]
    have hsize := mt Ring.notEmpty_iff.mpr (Bool.eq_false_iff.mp hclosed.2)
    omega
  have hlossless : s.packetsCache.popped ++ s.packetsCache.ring.contents = s.packetsCache.pushed := hs.lossless
  have hpushed := hs.pushed
  rw [hclosed.1, Option.toList_none, List.append_nil, ← hlossless, hempty, List.append_nil, ← hfst] at hpushed
  exact ⟨pkts, hfile, hpushed⟩

lemma payloads_of_reaches {origin : BlockingRing UdpPacket kPacketBufferSize}
    {memory : Fin (32 * 1024) → PandarPacket}
    (hs : Reaches (step port) (fun _ _ => True) (start b origin memory) s) (hclosed : s.Closed)
    (hfits : Fits s.received) (source : PcapSource) (args : ℕ → UdpPacket) {fuel : ℕ}
    (hfuel : s.received.length < fuel) : (source.openFile (some s.file)).1 = true ∧
      PcapSource.payloads args fuel (source.openFile (some s.file)).2 =
        (dumps port b s.received).map PandarPacket.buffer := by
  have hfaithful : s.Faithful port b :=
    reaches_invariant (fun _ _ _ _ hs h => step_faithful hs h) hs (start_faithful b origin memory)
  obtain ⟨pkts, hfile, hfst⟩ := file_of_closed hfaithful hclosed
  have hcount : pkts.length ≤ s.received.length := by
    rw [← List.length_map Prod.fst, hfst]
    exact length_dumps_le
  have hsmall : ∀ p ∈ pkts, p.1.buffer.length ≤ 1458 := by
    intro p hp
    exact dumps_small hfits p.1 (hfst ▸ List.mem_map_of_mem hp)
  obtain ⟨hopen, hbehind⟩ := source.openFile_recorded (records pkts)
  obtain ⟨hinside, hrest, -⟩ := source.openFile_some (PcapHeader.recorded.bytes ++ records pkts)
  rw [hbehind] at hrest
  rw [hfile, ← hfst, List.map_map]
  exact ⟨hopen, PcapSource.payloads_records args hinside hrest hsmall (hcount.trans_lt hfuel)⟩

/-- A closed recording is played back as the datagrams received exactly if no timeout got a marker. -/
theorem payloads_eq_iff (port : UInt16) (b : Bool) (origin : BlockingRing UdpPacket kPacketBufferSize)
    (memory : Fin (32 * 1024) → PandarPacket) (s : Recorder)
    (hs : Reaches (step port) (fun _ _ => True) (start b origin memory) s) (hclosed : s.Closed)
    (hfits : Fits s.received) (source : PcapSource) (args : ℕ → UdpPacket) (fuel : ℕ)
    (hfuel : s.received.length < fuel) : (source.openFile (some s.file)).1 = true ∧
      (PcapSource.payloads args fuel (source.openFile (some s.file)).2 = datagrams s.received ↔
        NoMarker b s.received) := by
  obtain ⟨hopen, hpayloads⟩ := payloads_of_reaches hs hclosed hfits source args hfuel
  rw [hpayloads]
  exact ⟨hopen, dumps_eq_iff hfits⟩

def oneResult (r : Reception) : List RecordAction := [.receive r, .dump, .write (0, 0)]

def startRecord (b : Bool) : Recorder := start b (BlockingRing.start (by decide) fun _ => default) fun _ => default

theorem payloads_eq_datagram : ∃ s, Reaches (step 2368) (fun _ _ => True) (startRecord false) s ∧
    s.received = [.datagram 3 (UdpPacket.ofBytes [1, 2, 3])] ∧
    PcapSource.payloads (fun _ => default) 2 ((default : PcapSource).openFile (some s.file)).2 =
      datagrams s.received := by
  obtain ⟨s, hexec⟩ : ∃ s, exec (step 2368) (oneResult (.datagram 3 (UdpPacket.ofBytes [1, 2, 3])))
    (startRecord false) = some s := ⟨_, rfl⟩
  have hs := reaches_of_exec hexec
  obtain rfl := Option.some.inj hexec
  refine ⟨_, hs, rfl, ?_⟩
  have hfits : Fits [.datagram 3 (UdpPacket.ofBytes [1, 2, 3])] := by
    intro len packet h
    obtain ⟨rfl, -⟩ := Reception.datagram.inj (List.mem_singleton.mp h)
    decide
  refine ((payloads_eq_iff 2368 false _ _ _ hs ⟨rfl, rfl⟩ hfits default (fun _ => default) 2 (by decide)).2).mpr ?_
  intro pre post packet h
  have hmem : Reception.timeout packet ∈ [Reception.datagram 3 (UdpPacket.ofBytes [1, 2, 3])] := by
    have hrs : [Reception.datagram 3 (UdpPacket.ofBytes [1, 2, 3])] = pre ++ Reception.timeout packet :: post := h
    rw [hrs]
    exact List.mem_append_right _ List.mem_cons_self
  exact absurd (List.mem_singleton.mp hmem) (by simp)

theorem payloads_marker : ∃ s, Reaches (step 2368) (fun _ _ => True) (startRecord false) s ∧ s.Closed ∧
    s.received = [.timeout default] ∧
    PcapSource.payloads (fun _ => default) 2 ((default : PcapSource).openFile (some s.file)).2 ≠
      datagrams s.received := by
  obtain ⟨s, hexec⟩ : ∃ s, exec (step 2368) (oneResult (.timeout default)) (startRecord false) = some s := ⟨_, rfl⟩
  have hs := reaches_of_exec hexec
  obtain rfl := Option.some.inj hexec
  refine ⟨_, hs, ⟨rfl, rfl⟩, rfl, fun h => ?_⟩
  have hfits : Fits [.timeout default] := fun len packet h => absurd (List.mem_singleton.mp h) (by simp)
  obtain ⟨-, hpayloads⟩ := payloads_of_reaches hs ⟨rfl, rfl⟩ hfits default (fun _ => default) (by decide : 1 < 2)
  exact absurd (congrArg List.length (hpayloads.symm.trans h)) (by decide)

end Recorder

end HesaiSdk.Lidar
