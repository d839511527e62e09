import HesaiSdk.Driver.FrameInvariant
import HesaiSdk.UdpParser.Cutting
import Mathlib.Data.List.Chain

/-! The frames of the AT128 between timeouts. -/

namespace HesaiSdk.Parsing.Udp43Parser

open Library Library.BlockWalk Lidar UdpProtocol UdpProtocol.V43

variable {env : Environment} {packet : UdpPacket} {Pt : Type} {p : Udp43Parser} {frame : LidarDecodedFrame Pt}

def azimuthAt (env : Environment) (packet : UdpPacket) : UInt16 := (readU16 env packet Header.bodyOffset).val

def OneBlock (env : Environment) (packet : UdpPacket) : Prop := (headerAt env packet).getBlockNum = 1

def jumps (env : Environment) (packet : UdpPacket) (p : Udp43Parser) : Bool :=
  isNeedFrameSplit (azimuthAt env packet) p.lastAzimuth

lemma finishBlocks_one (g : GeneralParser) (width : ℕ) (useAngle : Bool) (lastAzimuth : ℤ) :
    (bodyReader env packet g).finishBlocks width Header.bodyOffset ⟨useAngle, lastAzimuth, false⟩ 1 =
      ⟨useAngle || isNeedFrameSplit (azimuthAt env packet) lastAzimuth, (azimuthAt env packet).toNat,
        useAngle && isNeedFrameSplit (azimuthAt env packet) lastAzimuth⟩ := by
  have hhead : ((bodyReader env packet g).headAt width Header.bodyOffset 0).azimuth = azimuthAt env packet := by
    rw [BlockReader.headAt, BlockReader.blockOffset, Nat.mul_zero, Nat.add_zero]
    simp only [bodyReader, val_bind, val_pure, azimuthAt]
  rw [BlockReader.finishBlocks, BlockReader.finishBlocks]
  generalize (bodyReader env packet g).headAt width Header.bodyOffset 0 = head at hhead
  simp only [bodyReader, hhead]
  cases isNeedFrameSplit (azimuthAt env packet) lastAzimuth with
  | false => cases useAngle <;> rfl
  | true => cases useAngle <;> rfl

lemma decodeBody_cut (p : Udp43Parser) (frame : LidarDecodedFrame Pt) (hone : OneBlock env packet) :
    let d := (decodeBody env packet (headerAt env packet) p frame).val
    d.parser.useAngle = (p.useAngle || jumps env packet p) ∧
      d.parser.lastAzimuth = (azimuthAt env packet).toNat ∧
      d.frame.scanComplete = (p.useAngle && jumps env packet p) := by
  have hblocks : (headerAt env packet).getBlockNum = 1 := hone
  obtain ⟨hangle, hlast⟩ := countSeqNum_cut env packet (headerAt env packet) p.toGeneralParser
  obtain ⟨hangle', hlast'⟩ := calPktTimeLoss_cut env
    (countSeqNum env packet (headerAt env packet) p.toGeneralParser).val
    (getMicroLidarTime env packet (headerAt env packet).tailOffset).val
  simp only [decodeBody, val_bind, val_pure, BlockReader.walk_val, hblocks, finishBlocks_one,
    GeneralParser.tick, hangle', hangle, hlast', hlast]
  exact ⟨rfl, trivial, rfl⟩

lemma decodePacket_data (frame : LidarDecodedFrame Pt)
    (hdata : packet.isTimeout = true → ¬Delimited env packet) (hnot : ¬EndsFrame packet p) :
    let d := (p.decodePacket env packet frame).val
    d.ret ≠ 0 ∧ d.parser = p ∨
      d.ret = 0 ∧ packet.isTimeout = false ∧ p.getCorrectionFile = true ∧ Delimited env packet ∧
        d = (decodeBody env packet (headerAt env packet) p frame).val := by
  rw [decodePacket_val _ _ _ _ hnot]
  by_cases h : p.getCorrectionFile = true ∧ Delimited env packet
  · rw [if_pos h]
    refine Or.inr ⟨rfl, ?_, h.1, h.2, rfl⟩
    exact Bool.eq_false_iff.mpr fun ht => hdata ht h.2
  · rw [if_neg h]
    exact Or.inl ⟨(by decide : (-1 : ℤ) ≠ 0), rfl⟩

lemma lastAzimuth_again {frame' : LidarDecodedFrame Pt} (hone : OneBlock env packet) (ht : packet.isTimeout = false)
    (hc : p.getCorrectionFile = true) (hd : Delimited env packet) :
    let q := (decodeBody env packet (headerAt env packet) p frame).val.parser
    (q.decodePacket env packet frame').val.parser.lastAzimuth = (azimuthAt env packet).toNat := by
  intro q
  have hq : q.getCorrectionFile = true := by
    have hval := decodePacket_val env packet p frame fun he => by simpa [ht] using he.2.1
    rw [if_pos ⟨hc, hd⟩] at hval
    have hkeep : (p.decodePacket env packet frame).val.parser.toCalibration = p.toCalibration :=
      decodePacket_calibration
    rw [hval] at hkeep
    rw [← hc]
    exact congrArg Calibration.getCorrectionFile hkeep
  rw [decodePacket_val env packet q frame' fun he => by simpa [ht] using he.2.1, if_pos ⟨hq, hd⟩]
  exact (decodeBody_cut q frame' hone).2.1

end HesaiSdk.Parsing.Udp43Parser

namespace HesaiSdk.Driver

open Library Lidar UdpProtocol Parsing Parsing.Udp43Parser

variable {Pt Fault : Type} [Point Pt] {env : Environment} {device : DeviceFilter}
  {parserFaultMessage : UdpPacket → Fault → Fault}

def Near (former latter : UInt16) : Prop :=
  former ≠ 0 → (latter.toNat - former.toNat : ℤ).natAbs ≤ kAzimuthTolerance

/-- No packet is far from the packet before it, if that is not at azimuth 0. -/
def Steady (env : Environment) (packets : List UdpPacket) : Prop :=
  packets.IsChain fun a b => Near (azimuthAt env a) (azimuthAt env b)

lemma Steady.append {packets : List UdpPacket} {packet : UdpPacket} (h : Steady env packets)
    (hnear : ∀ last ∈ packets.getLast?, isNeedFrameSplit (azimuthAt env packet) (azimuthAt env last).toNat = false) :
    Steady env (packets ++ [packet]) := by
  refine List.isChain_append.mpr ⟨h, List.isChain_singleton packet, ?_⟩
  intro last hlast next hnext hzero
  obtain rfl := Option.some.inj hnext
  have hsplit := hnear last hlast
  rw [isNeedFrameSplit, decide_eq_false_iff_not, not_and_or] at hsplit
  rcases hsplit with hclose | hstop
  · exact not_lt.mp hclose
  · refine absurd (UInt16.toNat_inj.mp ?_) hzero
    exact_mod_cast not_not.mp hstop

def SteadyEvent (env : Environment) (e : RunEvent Pt Fault) : Prop := Steady env e.closedPackets

omit [Point Pt] in
lemma steady_of_closedPackets {α : Type} {x : Logged (RunEvent Pt Fault) α} (h : closedPackets x.log = []) :
    AllLog (SteadyEvent env) x := by
  intro e he
  rw [SteadyEvent, List.flatMap_eq_nil_iff.mp h e he]
  exact List.isChain_nil

namespace RunState

variable {s : RunState Udp43Parser Pt Fault} {p : Udp43Parser} {packet : UdpPacket} {fetch : Fetch}

structure Tracks (env : Environment) (s : RunState Udp43Parser Pt Fault) : Prop where
  steady : Steady env s.udpPacketFrame
  last : ∀ p ∈ s.udpParser.parser, ∀ packet ∈ s.udpPacketFrame.getLast?,
    p.lastAzimuth = (azimuthAt env packet).toNat

omit [Point Pt] in
lemma Tracks.of_empty (h : s.udpPacketFrame = []) : Tracks env s := by
  refine ⟨?_, ?_⟩
  · rw [h]
    exact List.isChain_nil
  · rw [h]
    exact fun _ _ _ hlast => absurd hlast (Option.not_mem_none _)

lemma decode_cases (parserFaultMessage : UdpPacket → Fault → Fault) (hp : s.udpParser.parser = some p)
    (hdata : packet.isTimeout = true → ¬Delimited env packet) (hone : Delimited env packet → OneBlock env packet) :
    let e := (s.decode env (udp43 env Pt Fault parserFaultMessage) packet).val
    (e.1 ≠ 0 ∧ e.2.udpParser.parser = some p) ∨
      (e.1 = 0 ∧ e.2.frame.packetNum = s.frame.packetNum ∧ e.2.frame.scanComplete = true) ∨
      (e.1 = 0 ∧ e.2.frame.packetNum = s.frame.packetNum + 1 ∧
        (6 ≤ packet.packetLen ∧ p.getCorrectionFile = true ∧ Delimited env packet) ∧
        e.2.frame.scanComplete = (p.useAngle && jumps env packet p) ∧
        ∃ q, e.2.udpParser.parser = some q ∧ q.lastAzimuth = (azimuthAt env packet).toNat ∧
          ∀ r : RunState Udp43Parser Pt Fault, r.udpParser = e.2.udpParser →
            ∃ q', (r.decode env (udp43 env Pt Fault parserFaultMessage) packet).val.2.udpParser.parser = some q' ∧
              q'.lastAzimuth = (azimuthAt env packet).toNat) := by
  by_cases hlen : packet.packetLen < 6
  · rw [decode_val, UdpParser.decodePacket_val_of_short hlen]
    exact Or.inl ⟨(by decide : (-1 : ℤ) ≠ 0), hp⟩
  obtain ⟨hret, hframe, hparser⟩ := decode_of_some env (udp43 env Pt Fault parserFaultMessage) hp hlen
  have hdecode : (udp43 env Pt Fault parserFaultMessage).decodePacket p s.frame packet =
      p.decodePacket env packet s.frame := rfl
  rw [hdecode] at hret hframe hparser
  dsimp only
  rw [hret, hframe, hparser]
  by_cases hends : EndsFrame packet p
  · rw [decodePacket_of_endsFrame _ _ _ _ hends]
    exact Or.inr (Or.inl ⟨rfl, rfl, rfl⟩)
  rcases decodePacket_data s.frame hdata hends with ⟨h0, heq⟩ | ⟨h0, ht, hc, hd, hval⟩
  · exact Or.inl ⟨h0, congrArg some heq⟩
  · obtain ⟨-, hlast, hscan⟩ := decodeBody_cut p s.frame (hone hd)
    rw [hval]
    refine Or.inr (Or.inr ⟨rfl, rfl, ⟨not_lt.mp hlen, hc, hd⟩, hscan, _, rfl, hlast, fun r hr => ?_⟩)
    rw [hval, ← hr] at hparser
    obtain ⟨-, -, hagain⟩ := decode_of_some env (udp43 env Pt Fault parserFaultMessage) hparser hlen
    exact ⟨_, hagain, lastAzimuth_again (hone hd) ht hc hd⟩

omit [Point Pt] in
lemma Tracks.overflow (h : Tracks env s) : AllLog (SteadyEvent env) s.overflow ∧ Tracks env s.overflow.val := by
  rw [RunState.overflow]
  split_ifs
  · rw [allLog_bind, allLog_note]
    exact ⟨⟨h.steady, allLog_pure _⟩, Tracks.of_empty rfl⟩
  · exact ⟨allLog_pure _, h⟩

lemma Tracks.append (parserFaultMessage : UdpPacket → Fault → Fault) {r : RunState Udp43Parser Pt Fault}
    (hlist : Steady env (r.udpPacketFrame ++ [packet]))
    (hq : ∀ q ∈ r.udpParser.parser, q.lastAzimuth = (azimuthAt env packet).toNat) :
    let P := udp43 env Pt Fault parserFaultMessage
    AllLog (SteadyEvent env) (r.append P packet) ∧ Tracks env (r.append P packet).val := by
  refine ⟨steady_of_closedPackets closedPackets_append_log, ?_⟩
  rw [append_val]
  refine ⟨hlist, fun q hparser last hlast => ?_⟩
  obtain rfl : packet = last := by
    have hgot : (r.udpPacketFrame ++ [packet]).getLast? = some last := hlast
    rw [List.getLast?_concat] at hgot
    exact Option.some.inj hgot
  exact hq q hparser

def Unsuppressed (env : Environment) (device : DeviceFilter) (s : RunState Udp43Parser Pt Fault)
    (fetch : Fetch) : Prop :=
  ∀ packet p, device.classify s.packetIndex fetch = .decode packet → s.udpParser.parser = some p →
    6 ≤ packet.packetLen ∧ p.getCorrectionFile = true ∧ Delimited env packet → s.packetIndex ≠ 0 →
    p.useAngle = false → jumps env packet p = false

omit [Point Pt] in
lemma publish_steady (h : Steady env s.udpPacketFrame) : SteadyEvent env s.endFrame.publish := by
  rw [RunState.publish]
  split_ifs
  · exact h
  · exact h

lemma Tracks.parsePacket {sourceType : ℤ} (h : Tracks env s)
    (parserFaultMessage : UdpPacket → Fault → Fault) (hs : InStep sourceType s)
    (hdata : packet.isTimeout = true → ¬Delimited env packet) (hone : Delimited env packet → OneBlock env packet)
    (hguard : ∀ p, s.udpParser.parser = some p →
      6 ≤ packet.packetLen ∧ p.getCorrectionFile = true ∧ Delimited env packet → s.packetIndex ≠ 0 →
      p.useAngle = false → jumps env packet p = false) :
    let P := udp43 env Pt Fault parserFaultMessage
    AllLog (SteadyEvent env) (s.parsePacket env P packet) ∧ Tracks env (s.parsePacket env P packet).val := by
  obtain ⟨p, hp⟩ := Option.isSome_iff_exists.mp hs.parser.parser
  have hcases := decode_cases parserFaultMessage hp hdata hone
  have hlog : AllLog (SteadyEvent env) (s.decode env (udp43 env Pt Fault parserFaultMessage) packet) :=
    steady_of_closedPackets closedPackets_decode_log
  have hlist : (s.decode env (udp43 env Pt Fault parserFaultMessage) packet).val.2.udpPacketFrame =
      s.udpPacketFrame := by
    rw [decode_val]
  have hindex : (s.decode env (udp43 env Pt Fault parserFaultMessage) packet).val.2.packetIndex =
      s.packetIndex := by
    rw [decode_val]
  intro P
  rw [RunState.parsePacket, allLog_bind, allLog_bind, val_bind, val_bind]
  generalize (s.decode env P packet).val = d at *
  have hkept : Tracks env s → (d.2.udpParser.parser = some p) → Tracks env d.2 := by
    intro h hparser
    refine ⟨?_, ?_⟩
    · rw [hlist]
      exact h.steady
    · rw [hlist, hparser, ← hp]
      exact h.last
  have haccepted : AllLog (SteadyEvent env) (acceptedIf packet s.frame.packetNum d) := by
    rw [acceptedIf]
    split_ifs <;> exact steady_of_closedPackets rfl
  rcases hcases with ⟨h0, hparser⟩ | ⟨h0, hnum, hscan⟩ | ⟨h0, hnum, hok, hscan, q, hparser, hlast, hagain⟩
  case inl =>
    rw [if_pos h0]
    exact ⟨⟨hlog, haccepted, allLog_pure _⟩, hkept h hparser⟩
  case inr.inl =>
    have hpublish : SteadyEvent env d.2.endFrame.publish :=
      publish_steady (by rw [hlist]; exact h.steady)
    rw [if_neg (by simp [h0]), if_pos hscan, splitFrame, allLog_bind, val_bind, allLog_note,
      if_pos (by rw [hnum, hindex, hs.packetNum])]
    exact ⟨⟨hlog, haccepted, hpublish, allLog_pure _⟩, Tracks.of_empty rfl⟩
  case inr.inr =>
    have hne : d.2.frame.packetNum ≠ d.2.packetIndex := by
      rw [hnum, hindex, hs.packetNum]
      exact Nat.succ_ne_self _
    rw [if_neg (by simp [h0])]
    by_cases hsplit : d.2.frame.scanComplete = true
    · have hpublish : SteadyEvent env d.2.endFrame.publish :=
        publish_steady (by rw [hlist]; exact h.steady)
      obtain ⟨q', hparser', hlast'⟩ := hagain d.2.endFrame.restart rfl
      have happend := Tracks.append parserFaultMessage
        (r := (d.2.endFrame.restart.decode env P packet).val.2) (List.isChain_singleton packet)
        fun q hq => by rwa [Option.some.inj (hq.symm.trans hparser')]
      rw [if_pos hsplit, splitFrame, allLog_bind, val_bind, allLog_note, if_neg hne, allLog_bind, val_bind]
      exact ⟨⟨hlog, haccepted, hpublish, steady_of_closedPackets closedPackets_decode_log, happend.1⟩, happend.2⟩
    · have hnear : ∀ last ∈ s.udpPacketFrame.getLast?,
          isNeedFrameSplit (azimuthAt env packet) (azimuthAt env last).toNat = false := by
        intro last hmem
        rw [← h.last p hp last hmem]
        have hsome : s.packetIndex ≠ 0 := by
          rw [← hs.length]
          exact fun hnil => absurd (List.eq_nil_of_length_eq_zero hnil ▸ hmem) (Option.not_mem_none _)
        cases hangle : p.useAngle with
        | false => exact hguard p hp hok hsome hangle
        | true =>
          rw [hscan, hangle, Bool.true_and] at hsplit
          exact Bool.eq_false_iff.mpr hsplit
      have happend := Tracks.append parserFaultMessage (r := d.2)
        (by rw [hlist]; exact h.steady.append hnear)
        fun q' hq => by rwa [Option.some.inj (hq.symm.trans hparser)]
      rw [if_neg hsplit, if_neg hne, allLog_bind, val_bind]
      obtain ⟨hover, htracks⟩ := happend.2.overflow
      exact ⟨⟨hlog, haccepted, happend.1, hover⟩, htracks⟩

omit [Point Pt] in
lemma Tracks.parseFault (P : Parser Udp43Parser Pt Fault) (h : Tracks env s) :
    AllLog (SteadyEvent env) (s.parseFault P packet) ∧ Tracks env (s.parseFault P packet).val := by
  rw [parseFault_val]
  refine ⟨?_, h.steady, h.last⟩
  rw [RunState.parseFault]
  split_ifs <;> exact steady_of_closedPackets rfl

lemma Tracks.step {sourceType : ℤ} (h : Tracks env s) (hs : InStep sourceType s)
    (hr : fetch.Received (udp43Framing env Pt Fault parserFaultMessage))
    (hone : ∀ packet ∈ fetch.packet, Delimited env packet → OneBlock env packet)
    (hguard : Unsuppressed env device s fetch) :
    let P := udp43 env Pt Fault parserFaultMessage
    AllLog (SteadyEvent env) (s.step env P device fetch) ∧ Tracks env (s.step env P device fetch).val := by
  intro P
  rw [RunState.step]
  rcases classify_cases device s.packetIndex fetch with ha | ⟨packet, hp, ha | ha⟩
  · rw [ha]
    exact ⟨allLog_pure _, h⟩
  · rw [ha]
    exact h.parseFault P
  · have hparse := h.parsePacket parserFaultMessage hs (hr packet hp) (hone packet hp)
      fun p hparser => hguard packet p ha hparser
    rw [ha]
    exact hparse

/-- While every jump that does not end the frame comes to an empty one, no frame jumps. -/
theorem run_steady (env : Environment) (device : DeviceFilter) (parserFaultMessage : UdpPacket → Fault → Fault)
    (udpParser : UdpParser Udp43Parser) (hparser : udpParser.parser.isSome) (frame : LidarDecodedFrame Pt)
    (info : Fault) (fetches : List Fetch)
    (hr : ∀ fetch ∈ fetches, fetch.Received (udp43Framing env Pt Fault parserFaultMessage))
    (hone : ∀ fetch ∈ fetches, ∀ packet ∈ fetch.packet, Delimited env packet → OneBlock env packet)
    (hguard : Guarded (Unsuppressed env device) (step env (udp43 env Pt Fault parserFaultMessage) device) fetches
      (start udpParser frame info)) :
    let r := (start udpParser frame info).run env (udp43 env Pt Fault parserFaultMessage) device fetches
    (∀ e ∈ r.log, Steady env e.closedPackets) ∧ Steady env r.val.udpPacketFrame := by
  let F := udp43Framing env Pt Fault parserFaultMessage
  let D (fetch : Fetch) : Prop := fetch.Received F ∧
    ∀ packet ∈ fetch.packet, Delimited env packet → OneBlock env packet
  let P (history : List (RunEvent Pt Fault)) (s : RunState Udp43Parser Pt Fault) : Prop :=
    FrameInv udpParser.sourceType history s ∧ (∀ e ∈ history, SteadyEvent env e) ∧ Tracks env s
  have hstep (history : List (RunEvent Pt Fault)) (s : RunState Udp43Parser Pt Fault) (fetch : Fetch)
      (hf : Unsuppressed env device s fetch ∧ D fetch) (h : P history s) :
      P (history ++ (s.step env F.toParser device fetch).log) (s.step env F.toParser device fetch).val := by
    obtain ⟨hlog, htracks⟩ := h.2.2.step h.1.toInStep hf.2.1 hf.2.2 hf.1
    refine ⟨step_inv hf.2.1 h.1, fun e he => ?_, htracks⟩
    rcases List.mem_append.mp he with he | he
    · exact h.2.1 e he
    · exact hlog e he
  have h0 : P [] (start udpParser frame info) :=
    ⟨⟨⟨⟨hparser, rfl⟩, rfl, rfl, kMaxPacketNumPerFrame_pos⟩, rfl⟩, by simp, Tracks.of_empty rfl⟩
  have hall : ∀ fetch ∈ fetches, D fetch := fun fetch hf => ⟨hr fetch hf, hone fetch hf⟩
  obtain ⟨-, hlog, htracks⟩ := runs_guarded hstep (hguard.and_forall hall) h0
  exact ⟨hlog, htracks.steady⟩

section Sweep

omit [Point Pt] in
lemma unsuppressed_of_empty (h : s.packetIndex = 0) : Unsuppressed env device s fetch :=
  fun _ _ _ _ _ hne => absurd h hne

omit [Point Pt] in
lemma unsuppressed_of_useAngle (h : s.udpParser.parser.map (fun p => p.useAngle) = some true) :
    Unsuppressed env device s fetch := by
  intro packet p _ hp _ _ hangle
  rw [hp] at h
  exact absurd (Option.some.inj h) (Bool.eq_false_iff.mp hangle)

def mirrorPacket (azimuth : UInt16) : UdpPacket :=
  UdpPacket.ofBytes ([0xEE, 0xFF, 4, 3, 0, 0, 1, 1, 0, 4, 0, 0, azimuth.toUInt8, (azimuth >>> 8).toUInt8] ++
    List.replicate 41 0)

def timeoutMarker : UdpPacket := { (default : UdpPacket) with packetLen := 1180, isTimeout := true }

def mirrorParser : Udp43Parser :=
  { (default : Udp43Parser) with
    getCorrectionFile := true
    useAngle := true
    corrections := { (default : PandarATCorrections) with frameNumber := 1, endFrame := fun _ => 7900 * 256 } }

def mirrorStart : RunState Udp43Parser LidarPointXYZICRT Unit :=
  start ⟨some mirrorParser, false, 0, 0, 0, false, 1⟩ default ()

def mirrorRun (packets : List UdpPacket) : Logged (RunEvent LidarPointXYZICRT Unit)
    (RunState Udp43Parser LidarPointXYZICRT Unit) :=
  mirrorStart.run default (udp43 default LidarPointXYZICRT Unit fun _ => id) ⟨0, 0, 0⟩
    (packets.map fun packet => ⟨some packet, true⟩)

def sweptPackets : List UdpPacket := [mirrorPacket 7600, timeoutMarker, mirrorPacket 30, mirrorPacket 60]

theorem run_steady_swept : (∀ e ∈ (mirrorRun sweptPackets).log, Steady default e.closedPackets) ∧
    Steady default (mirrorRun sweptPackets).val.udpPacketFrame := by
  have hmarkers : ∀ packet ∈ sweptPackets, packet.isTimeout = true → ¬Delimited default packet := by decide
  have hblocks : ∀ packet ∈ sweptPackets, Delimited default packet →
      (V43.headerAt default packet).getBlockNum = 1 := by
    decide
  refine run_steady default ⟨0, 0, 0⟩ (fun _ => id) _ rfl default () _ ?_ ?_ ?_
  · rw [List.forall_mem_map]
    rintro packet hp _ ⟨⟩
    exact hmarkers packet hp
  · rw [List.forall_mem_map]
    rintro packet hp _ ⟨⟩
    exact hblocks packet hp
  · refine ⟨unsuppressed_of_empty rfl, unsuppressed_of_useAngle ?_, unsuppressed_of_empty ?_,
      unsuppressed_of_useAngle ?_, trivial⟩
    · decide +kernel
    · decide +kernel
    · decide +kernel

def latePackets : List UdpPacket := [mirrorPacket 7600, timeoutMarker, mirrorPacket 7650, mirrorPacket 30]

/-- One more packet of the sweep arrives after the timeout, and the jump to the next sweep is lost. -/
theorem mirrorRun_jumps :
    (∀ packet ∈ latePackets, (packet.isTimeout = true → ¬Delimited default packet) ∧
      (Delimited default packet → OneBlock default packet)) ∧
    ¬Steady default (mirrorRun latePackets).val.udpPacketFrame := by
  have hblocks : ∀ packet ∈ latePackets, (packet.isTimeout = true → ¬Delimited default packet) ∧
      (Delimited default packet → (V43.headerAt default packet).getBlockNum = 1) := by
    decide
  have hframe : (mirrorRun latePackets).val.udpPacketFrame.map (azimuthAt default) = [7650, 30] := by
    decide +kernel
  refine ⟨hblocks, fun hsteady => ?_⟩
  have hchain := List.isChain_map_of_isChain (S := Near) (azimuthAt default) (fun _ _ h => h) hsteady
  rw [hframe, List.isChain_pair] at hchain
  exact absurd (hchain (by decide)) (by decide)

end Sweep

end RunState

end HesaiSdk.Driver
