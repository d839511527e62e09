import HesaiSdk.Driver.FrameInvariant
import HesaiSdk.UdpParser.Timing

/-! The packet time loss tool over a run. -/

namespace HesaiSdk.Parsing.GeneralParser

open UdpProtocol

variable {env : Environment} {p q : GeneralParser}

structure InTime (t : UInt64) (p : GeneralParser) : Prop where
  enable : p.enablePacketTimelossTool = true
  total : p.timeLossMessage.totalTimelossCount = 0
  last : p.timeLossMessage.startTimestamp ≠ 0 → p.timeLossMessage.lastTimestamp ≤ t

lemma InTime.congr {t : UInt64} (h : InTime t p) (hq : q.timeLosses = p.timeLosses) : InTime t q := by
  simp only [timeLosses, Prod.mk.injEq] at hq
  exact ⟨hq.1.trans h.enable, hq.2 ▸ h.total, hq.2 ▸ h.last⟩

lemma InTime.later {t t' : UInt64} (h : InTime t p) (ht : t < t') : InTime t' p :=
  ⟨h.enable, h.total, fun hstart => UInt64.le_of_lt (UInt64.lt_of_le_of_lt (h.last hstart) ht)⟩

lemma InTime.calPktTimeLoss {t t' : UInt64} (h : InTime t p) (ht : t < t') : InTime t' (p.calPktTimeLoss env t') := by
  have henable : ¬p.enablePacketTimelossTool = false := by
    rw [h.enable]
    decide
  have hgo : ¬(p.packetTimelossToolContinue = false ∧ p.timeLossMessage.totalTimelossCount ≠ 0) :=
    fun hn => hn.2 h.total
  rw [GeneralParser.calPktTimeLoss, if_neg henable, if_neg hgo]
  by_cases hstart : p.timeLossMessage.startTimestamp = 0
  · rw [if_pos hstart]
    exact ⟨h.enable, rfl, fun _ => UInt64.le_refl t'⟩
  rw [if_neg hstart]
  by_cases hloss : p.seqnumLossMessage.isPacketLoss = true
  · rw [if_pos hloss]
    exact ⟨h.enable, h.total, fun _ => UInt64.le_refl t'⟩
  have hlate : ¬t' ≤ p.timeLossMessage.lastTimestamp :=
    UInt64.not_le.mpr (UInt64.lt_of_le_of_lt (h.last hstart) ht)
  rw [if_neg hloss, if_neg hlate]
  dsimp only
  split_ifs
  · exact ⟨h.enable, h.total, fun _ => UInt64.le_refl t'⟩
  · exact ⟨h.enable, h.total, fun _ => UInt64.le_refl t'⟩
  · exact ⟨h.enable, h.total, fun _ => UInt64.le_refl t'⟩

lemma InTime.timedBy {t t' : UInt64} (h : InTime t p) (ht : t < t') (hq : TimedBy env t' p q) : InTime t' q := by
  rcases hq with hq | ⟨g, hg, hq⟩
  · exact (h.later ht).congr hq
  · exact ((h.congr hg).calPktTimeLoss ht).congr hq

end HesaiSdk.Parsing.GeneralParser

namespace HesaiSdk.Driver

open Library Lidar UdpProtocol Parsing GeneralParser

namespace RunState

variable {σ Pt Fault : Type} {env : Environment} {F : TimedParser env σ Pt Fault} {device : DeviceFilter}
  {s : RunState σ Pt Fault} {packet : UdpPacket} {fetch : Fetch} {fetches : List Fetch} {t : UInt64}

lemma udpParser_parsePacket (env : Environment) (P : Parser σ Pt Fault) (s : RunState σ Pt Fault) (packet : UdpPacket)
    (hscan : (s.decode env P packet).val.1 = 0 → (s.decode env P packet).val.2.frame.scanComplete = false) :
    (s.parsePacket env P packet).val.udpParser = (s.decode env P packet).val.2.udpParser := by
  have hover (r : RunState σ Pt Fault) : r.overflow.val.udpParser = r.udpParser := by
    rw [overflow]
    split_ifs <;> rfl
  rw [parsePacket, val_bind, val_bind]
  by_cases h0 : (s.decode env P packet).val.1 = 0
  · rw [if_neg (by simp [h0]), if_neg (by simp [hscan h0]), val_bind, hover]
    split_ifs
    · rfl
    · rw [append_val]
      rfl
  · rw [if_pos h0]
    rfl

section Uncut

variable (F device)

/-- The packet of a fetch, if it is accepted, does not end the frame. -/
def passes (s : RunState σ Pt Fault) (fetch : Fetch) : Bool :=
  match device.classify s.packetIndex fetch with
  | .decode packet => s.udpParser.parser.all fun p =>
      decide ((F.decodePacket p s.frame packet).val.ret = 0 → F.cuts p packet = false)
  | _ => true

def uncut : RunState σ Pt Fault → List Fetch → Bool
  | _, [] => true
  | s, fetch :: rest => passes F device s fetch && uncut (s.step env F.toParser device fetch).val rest

end Uncut

def InTime (F : TimedParser env σ Pt Fault) (t : UInt64) (s : RunState σ Pt Fault) : Prop :=
  ∃ p, s.udpParser.parser = some p ∧ GeneralParser.InTime t (F.general p)

lemma InTime.of_udpParser {r : RunState σ Pt Fault} (h : InTime F t s) (hr : r.udpParser = s.udpParser) :
    InTime F t r := by
  rw [InTime, hr]
  exact h

lemma InTime.later {t' : UInt64} (h : InTime F t s) (ht : t < t') : InTime F t' s := by
  obtain ⟨p, hp, htime⟩ := h
  exact ⟨p, hp, htime.later ht⟩

lemma InTime.decode {t' : UInt64} (h : InTime F t s) (ht : t < t') (ht' : F.timestamp packet = t')
    (hpass : ∀ p, s.udpParser.parser = some p → (F.decodePacket p s.frame packet).val.ret = 0 →
      F.cuts p packet = false) : InTime F t' (s.parsePacket env F.toParser packet).val := by
  obtain ⟨p, hp, htime⟩ := h
  by_cases hlen : packet.packetLen < 6
  · have hparser := udpParser_parsePacket env F.toParser s packet fun h0 => by
      rw [decode_val, UdpParser.decodePacket_val_of_short hlen]
    rw [decode_val, UdpParser.decodePacket_val_of_short hlen] at hparser
    exact ⟨p, (congrArg UdpParser.parser hparser).trans hp, htime.later ht⟩
  · obtain ⟨hret, hframe, hnext⟩ := decode_of_some env F.toParser hp hlen
    have hparser := udpParser_parsePacket env F.toParser s packet fun h0 => by
      have hzero := hret.symm.trans h0
      rw [hframe, F.completes p s.frame packet hzero]
      exact hpass p hp hzero
    refine ⟨_, (congrArg UdpParser.parser hparser).trans hnext, ?_⟩
    have htimed := F.timed p s.frame packet
    rw [ht'] at htimed
    exact htime.timedBy ht htimed

lemma InTime.step {t' : UInt64} (h : InTime F t s) (ht : t < t')
    (ht' : ∀ packet ∈ fetch.packet, F.timestamp packet = t') (hpass : passes F device s fetch = true) :
    InTime F t' (s.step env F.toParser device fetch).val := by
  rw [RunState.step]
  rcases classify_cases device s.packetIndex fetch with ha | ⟨packet, hp, ha | ha⟩
  · rw [ha]
    exact h.later ht
  · rw [ha]
    apply (h.later ht).of_udpParser
    show (s.parseFault F.toParser packet).val.udpParser = _
    rw [parseFault_val]
  · rw [passes, ha] at hpass
    have hdecode := h.decode ht (ht' packet hp) fun p hparser hret => by
      rw [hparser] at hpass
      exact of_decide_eq_true hpass hret
    rw [ha]
    exact hdecode

/-- While no packet ends a frame, increasing timestamps are never reported as fallen back. -/
lemma InTime.run {packets : List UdpPacket} (h : InTime F t s) (hlt : ∀ packet ∈ packets, t < F.timestamp packet)
    (hstamps : (packets.map F.timestamp).Pairwise (· < ·))
    (hcut : uncut F device s (packets.map fun packet => ⟨some packet, true⟩) = true) :
    ∃ t', InTime F t' (s.run env F.toParser device (packets.map fun packet => ⟨some packet, true⟩)).val := by
  induction packets generalizing t s with
  | nil => exact ⟨t, h⟩
  | cons packet rest ih =>
    rw [List.map_cons, List.pairwise_cons] at hstamps
    rw [List.map_cons, uncut, Bool.and_eq_true] at hcut
    have hfetch : ∀ q ∈ (⟨some packet, true⟩ : Fetch).packet, F.timestamp q = F.timestamp packet := by
      intro q hq
      rw [Option.mem_some.mp hq]
    have hstep := h.step (hlt packet List.mem_cons_self) hfetch hcut.1
    have hlater : ∀ q ∈ rest, F.timestamp packet < F.timestamp q :=
      fun q hq => hstamps.1 _ (List.mem_map_of_mem hq)
    exact ih hstep hlater hstamps.2 hcut.2

/-- For every class: the total stays 0 in a run in which no packet is decoded a second time. -/
theorem run_timeloss [Point Pt] (env : Environment) (faultMessage43 faultMessage47 : UdpPacket → Fault → Fault)
    (type : ParserType) (device : DeviceFilter) (udpParser : UdpParser (ParserState type)) (p : ParserState type)
    (frame : LidarDecodedFrame Pt) (info : Fault) (packets : List UdpPacket) :
    let F := parserTimed env Pt faultMessage43 faultMessage47 type
    let fetches := packets.map fun packet => (⟨some packet, true⟩ : Fetch)
    udpParser.parser = some p → (F.general p).enablePacketTimelossTool = true → (F.general p).timeLossMessage = {} →
      (∀ packet ∈ packets, 0 < F.timestamp packet) → (packets.map F.timestamp).Pairwise (· < ·) →
      uncut F device (start udpParser frame info) fetches = true →
      ∃ q, ((start udpParser frame info).run env F.toParser device fetches).val.udpParser.parser = some q ∧
        (F.general q).timeLossMessage.totalTimelossCount = 0 := by
  intro F fetches hp henable hnew hpos hstamps hcut
  have h0 : InTime F 0 (start udpParser frame info) := by
    refine ⟨p, hp, henable, ?_, fun hstart => absurd ?_ hstart⟩
    · rw [hnew]
    · rw [hnew]
  obtain ⟨t', q, hq, htime⟩ := h0.run hpos hstamps hcut
  exact ⟨q, hq, htime.total⟩

section Boundary

def stampedPacket (azimuth : UInt16) (n : UInt8) : UdpPacket :=
  UdpPacket.ofBytes ([0xEE, 0xFF, 6, 1, 0, 0, 1, 1, 0, 4, 0, 0,
    azimuth.toUInt8, (azimuth >>> 8).toUInt8, 0, 0, 0, 0] ++
    List.replicate 19 0 ++ [n, 0, 0, 0, 0, n, 0, 0, 0])

def timed : UdpParser (ParserState .udp61) :=
  ⟨some { (default : GeneralParser) with
    getCorrectionFile := true
    enablePacketTimelossTool := true
    frameStartAzimuth := 1 }, true, 0, 0, 0, true, 1⟩

def xtTimed : TimedParser default (ParserState .udp61) LidarPointXYZICRT Unit :=
  parserTimed default LidarPointXYZICRT (fun _ info => info) (fun _ info => info) .udp61

def timedRun (packets : List UdpPacket) : RunState (ParserState .udp61) LidarPointXYZICRT Unit :=
  ((start timed default ()).run default xtTimed.toParser ⟨0, 0, 0⟩
    (packets.map fun packet => ⟨some packet, true⟩)).val

def timelossCount (s : RunState (ParserState .udp61) LidarPointXYZICRT Unit) : Option UInt32 :=
  s.udpParser.parser.map fun q => (xtTimed.general q).timeLossMessage.totalTimelossCount

/-- Over the end of the circle, and on to the start azimuth of one degree. -/
theorem run_timeloss_xt :
    timelossCount (timedRun [stampedPacket 35800 1, stampedPacket 35900 2, stampedPacket 20 3, stampedPacket 80 4]) =
      some 0 := by
  obtain ⟨q, hq, htotal⟩ := run_timeloss default (fun _ info => info) (fun _ info => info) .udp61 ⟨0, 0, 0⟩ timed _
    (default : LidarDecodedFrame LidarPointXYZICRT) ()
    [stampedPacket 35800 1, stampedPacket 35900 2, stampedPacket 20 3, stampedPacket 80 4] rfl rfl rfl
    (by decide +kernel) (by decide +kernel) (by decide +kernel)
  rw [timelossCount, timedRun]
  exact (congrArg (Option.map _) hq).trans (congrArg some htotal)

/-- The second packet passes the start azimuth of one degree and is decoded twice. -/
theorem run_timeloss_boundary : timelossCount (timedRun [stampedPacket 50 1, stampedPacket 150 2]) = some 1 := by
  decide +kernel

end Boundary

end RunState

end HesaiSdk.Driver
