import HesaiSdk.Driver.FrameInvariant
import HesaiSdk.UdpParser.Capacity

namespace HesaiSdk.Driver

open Library Lidar UdpProtocol Parsing

variable {σ Pt Fault : Type}

def RunEvent.PointBelow (n : ℕ) : RunEvent Pt Fault → Prop
  | .access (.pointData i) => i < n
  | .counted pointsNum => pointsNum ≤ n
  | _ => True

namespace RunState

variable {env : Environment} {P : Parser σ Pt Fault} {F : CapacityParser σ Pt Fault} {device : DeviceFilter}
  {s : RunState σ Pt Fault} {packet : UdpPacket} {sourceType : ℤ}

def Small (F : CapacityParser σ Pt Fault) (packets : List UdpPacket) : Prop :=
  ∀ packet ∈ packets, F.pointNum packet ≤ kMaxPointsNumPerPacket

lemma points_le {n k : ℕ} (hk : k ≤ kMaxPacketNumPerFrame) (hn : n ≤ k * kMaxPointsNumPerPacket) :
    n ≤ kMaxPointsNumPerFrame := by
  rw [kMaxPointsNumPerFrame, Nat.mul_comm]
  exact hn.trans (Nat.mul_le_mul_right _ hk)

lemma access_points {α : Type} {x : Logged DecodeEvent α} {n : ℕ} :
    AllLog (RunEvent.PointBelow n : RunEvent Pt Fault → Prop) (relabel .access x) ↔
      AllLog (Bounds.Allows { pointData := (· < n) }) x := by
  apply allLog_relabel
  intro a
  cases a <;> exact Iff.rfl

lemma decode_points (hr : F.Received packet) (hn : s.frame.packetNum < kMaxPacketNumPerFrame)
    (hsmall : (s.decode env F.toParser packet).val.2.frame.packetNum = s.frame.packetNum + 1 →
      F.pointNum packet ≤ kMaxPointsNumPerPacket) :
    AllLog (RunEvent.PointBelow kMaxPointsNumPerFrame) (s.decode env F.toParser packet) := by
  rw [decode, allLog_bind]
  exact ⟨access_points.mpr (UdpParser.decodePacket_pointIndex hr hn hsmall), allLog_pure _⟩

lemma append_points (hk : s.packetIndex < kMaxPacketNumPerFrame)
    (hcount : s.frame.pointsNum + s.frame.perPointsNum ≤ (s.packetIndex + 1) * kMaxPointsNumPerPacket) :
    AllLog (RunEvent.PointBelow kMaxPointsNumPerFrame) (s.append F.toParser packet) := by
  rw [append, compute]
  simp only [allLog_bind, allLog_note, allLog_pure, and_true]
  exact ⟨⟨trivial, access_points.mpr UdpParser.computeXYZI_pointIndex⟩, points_le hk hcount⟩

variable (env s) in
lemma decode_pointsNum (hr : F.Received packet) :
    (s.decode env F.toParser packet).val.2.frame.pointsNum = s.frame.pointsNum := by
  rw [decode_val]
  exact UdpParser.decodePacket_pointsNum hr

lemma decode_perPointsNum (hs : s.udpParser.parser.isSome) (hr : F.Received packet)
    (hnum : (s.decode env F.toParser packet).val.2.frame.packetNum = s.frame.packetNum + 1) :
    (s.decode env F.toParser packet).val.2.frame.perPointsNum = F.pointNum packet := by
  rw [decode_val] at hnum ⊢
  exact UdpParser.decodePacket_announces hs hr hnum

def Bounded (x : Logged (RunEvent Pt Fault) (RunState σ Pt Fault)) : Prop :=
  AllLog (RunEvent.PointBelow kMaxPointsNumPerFrame) x ∧
    x.val.frame.pointsNum ≤ x.val.packetIndex * kMaxPointsNumPerPacket

lemma append_bounded (hk : s.packetIndex < kMaxPacketNumPerFrame)
    (hn : s.frame.pointsNum ≤ s.packetIndex * kMaxPointsNumPerPacket)
    (hper : s.frame.perPointsNum ≤ kMaxPointsNumPerPacket) : Bounded (s.append F.toParser packet) := by
  have hcount : s.frame.pointsNum + s.frame.perPointsNum ≤ (s.packetIndex + 1) * kMaxPointsNumPerPacket := by
    rw [Nat.succ_mul]
    exact Nat.add_le_add hn hper
  refine ⟨append_points hk hcount, ?_⟩
  rw [append_val]
  exact hcount

lemma overflow_bounded (hn : s.frame.pointsNum ≤ s.packetIndex * kMaxPointsNumPerPacket) : Bounded s.overflow := by
  rw [overflow]
  split_ifs
  · exact ⟨by simp [RunEvent.PointBelow], Nat.zero_le _⟩
  · exact ⟨allLog_pure _, hn⟩

lemma Bounded.bind {α : Type} {x : Logged (RunEvent Pt Fault) α}
    {f : α → Logged (RunEvent Pt Fault) (RunState σ Pt Fault)}
    (hx : AllLog (RunEvent.PointBelow kMaxPointsNumPerFrame) x) (hf : Bounded (f x.val)) : Bounded (x >>= f) :=
  ⟨allLog_bind.mpr ⟨hx, hf.1⟩, hf.2⟩

lemma splitFrame_bounded (hs : s.udpParser.parser.isSome) (hr : F.Received packet)
    (hcase : s.frame.packetNum = s.packetIndex ∨
      F.pointNum packet ≤ kMaxPointsNumPerPacket ∧ ∀ t : RunState σ Pt Fault,
        t.udpParser = s.udpParser →
        (t.decode env F.toParser packet).val.2.frame.packetNum = t.frame.packetNum + 1) :
    Bounded (s.splitFrame env F.toParser packet) := by
  rw [splitFrame]
  apply Bounded.bind
  · rw [allLog_note, publish]
    split_ifs <;> trivial
  · split_ifs with hn
    · exact ⟨allLog_pure _, Nat.zero_le _⟩
    · obtain ⟨hsmall, hagain⟩ := hcase.resolve_left hn
      have hd := hagain s.endFrame.restart rfl
      apply Bounded.bind
      · exact decode_points hr kMaxPacketNumPerFrame_pos fun _ => hsmall
      · have hpoints := decode_pointsNum env s.endFrame.restart hr
        have hper := decode_perPointsNum (s := s.endFrame.restart) hs hr hd
        have hindex : (s.endFrame.restart.decode env F.toParser packet).val.2.packetIndex = 0 := by
          rw [decode_val]
          rfl
        apply append_bounded
        · rw [hindex]
          exact kMaxPacketNumPerFrame_pos
        · rw [hpoints]
          exact Nat.zero_le _
        · rw [hper]
          exact hsmall

lemma parsePacket_bounded (hs : InStep sourceType s) (hr : F.Received packet)
    (hn : s.frame.pointsNum ≤ s.packetIndex * kMaxPointsNumPerPacket)
    (hsmall : (s.decode env F.toParser packet).val.1 = 0 →
      (s.decode env F.toParser packet).val.2.frame.packetNum = s.frame.packetNum + 1 →
      F.pointNum packet ≤ kMaxPointsNumPerPacket) :
    Bounded (s.parsePacket env F.toParser packet) := by
  obtain ⟨hparser, hindex, -, hcases⟩ := hs.decode env hr
  have hpoints := decode_pointsNum env s hr
  have hper (h : (s.decode env F.toParser packet).val.2.frame.packetNum = s.frame.packetNum + 1) :=
    decode_perPointsNum hs.parser.parser hr h
  have hlog : AllLog (RunEvent.PointBelow kMaxPointsNumPerFrame) (s.decode env F.toParser packet) := by
    apply decode_points hr
    · rw [hs.packetNum]
      exact hs.below
    · intro hnum
      rcases hcases with ⟨-, h⟩ | ⟨h0, -⟩ | ⟨-, h, -⟩
      · rw [hs.packetNum, h] at hnum
        exact absurd hnum.symm (Nat.succ_ne_self _)
      · exact hsmall h0 hnum
      · rw [hs.packetNum, h] at hnum
        exact absurd hnum.symm (Nat.succ_ne_self _)
  rw [hs.packetNum] at hper hsmall
  rw [parsePacket]
  apply Bounded.bind hlog
  apply Bounded.bind
  · rw [acceptedIf]
    split_ifs <;> simp [RunEvent.PointBelow]
  generalize (s.decode env F.toParser packet).val = d at *
  rcases hcases with ⟨h0, hnum⟩ | ⟨h0, hnum, hagain⟩ | ⟨h0, hnum, hscan⟩
  case inl =>
    rw [if_pos h0]
    refine ⟨allLog_pure _, ?_⟩
    rw [val_pure, hpoints, hindex]
    exact hn
  case inr.inl =>
    rw [if_neg (by simp [h0])]
    split_ifs with hscan heq
    · exact splitFrame_bounded hparser.parser hr (Or.inr ⟨hsmall h0 hnum, hagain⟩)
    · rw [hnum, hindex] at heq
      exact absurd heq (Nat.succ_ne_self _)
    · have happ : Bounded (d.2.append F.toParser packet) := by
        apply append_bounded
        · rw [hindex]
          exact hs.below
        · rw [hpoints, hindex]
          exact hn
        · rw [hper hnum]
          exact hsmall h0 hnum
      exact Bounded.bind happ.1 (overflow_bounded happ.2)
  case inr.inr =>
    rw [if_neg (by simp [h0]), if_pos hscan]
    exact splitFrame_bounded hparser.parser hr (Or.inl (hnum.trans hindex.symm))

lemma acceptedPackets_parsePacket (h0 : (s.decode env P packet).val.1 = 0)
    (hnum : (s.decode env P packet).val.2.frame.packetNum = s.frame.packetNum + 1) :
    packet ∈ acceptedPackets (s.parsePacket env P packet).log := by
  rw [parsePacket, log_bind, log_bind, acceptedIf, if_pos ⟨h0, hnum⟩, acceptedPackets_append,
    acceptedPackets_append]
  exact List.mem_append_right _ (List.mem_append_left _ List.mem_cons_self)

lemma step_bounded {fetch : Fetch} (hs : InStep sourceType s) (hr : fetch.Received F.toFramingParser)
    (hn : s.frame.pointsNum ≤ s.packetIndex * kMaxPointsNumPerPacket)
    (hsmall : Small F (acceptedPackets (s.step env F.toParser device fetch).log)) :
    Bounded (s.step env F.toParser device fetch) := by
  rw [step] at hsmall ⊢
  rcases classify_cases device s.packetIndex fetch with h | ⟨packet, hp, h | h⟩
  · rw [h]
    exact ⟨allLog_pure _, hn⟩
  · rw [h]
    show Bounded (s.parseFault F.toParser packet)
    refine ⟨?_, ?_⟩
    · rw [parseFault]
      split_ifs <;> simp [RunEvent.PointBelow]
    · rw [parseFault_val]
      exact hn
  · rw [h] at hsmall ⊢
    exact parsePacket_bounded hs (hr packet hp) hn fun h0 hnum =>
      hsmall packet (acceptedPackets_parsePacket h0 hnum)

/-- No slot behind the arrays of a frame is written or counted. -/
def InsideFrame (x : Logged (RunEvent Pt Fault) (RunState σ Pt Fault)) : Prop :=
  AllLog (RunEvent.PointBelow kMaxPointsNumPerFrame) x ∧ x.val.frame.pointsNum ≤ kMaxPointsNumPerFrame

lemma run_bounded {udpParser : UdpParser σ} (hparser : udpParser.parser.isSome) {frame : LidarDecodedFrame Pt}
    (hframe : frame.pointsNum = 0) {info : Fault} {fetches : List Fetch}
    (hr : ∀ fetch ∈ fetches, fetch.Received F.toFramingParser)
    (hsmall : Small F (acceptedPackets ((start udpParser frame info).run env F.toParser device fetches).log)) :
    InsideFrame ((start udpParser frame info).run env F.toParser device fetches) := by
  let P (history : List (RunEvent Pt Fault)) (s : RunState σ Pt Fault) : Prop :=
    FrameInv udpParser.sourceType history s ∧ (Small F (acceptedPackets history) →
      s.frame.pointsNum ≤ s.packetIndex * kMaxPointsNumPerPacket ∧
        ∀ e ∈ history, RunEvent.PointBelow kMaxPointsNumPerFrame e)
  have hstep (history : List (RunEvent Pt Fault)) (s : RunState σ Pt Fault) (fetch : Fetch)
      (hf : fetch.Received F.toFramingParser) (h : P history s) :
      P (history ++ (s.step env F.toParser device fetch).log) (s.step env F.toParser device fetch).val := by
    refine ⟨step_inv hf h.1, fun hs => ?_⟩
    rw [acceptedPackets_append] at hs
    obtain ⟨hn, hall⟩ := h.2 fun packet hp => hs packet (List.mem_append_left _ hp)
    have hb : Bounded (s.step env F.toParser device fetch) := step_bounded h.1.toInStep hf hn fun packet hp =>
      hs packet (List.mem_append_right _ hp)
    exact ⟨hb.2, fun e he => (List.mem_append.mp he).elim (hall e) (hb.1 e)⟩
  have h0 : P [] (start udpParser frame info) := by
    refine ⟨⟨⟨⟨hparser, rfl⟩, rfl, rfl, kMaxPacketNumPerFrame_pos⟩, rfl⟩, fun _ => ⟨?_, by simp⟩⟩
    exact hframe.le.trans (Nat.zero_le _)
  have h := runs_invariant (P := P) (C := Fetch.Received F.toFramingParser) hstep hr h0
  obtain ⟨hn, hall⟩ := h.2 hsmall
  exact ⟨hall, points_le h.1.below.le hn⟩

/-- While every accepted packet announces at most 512 points, no slot outside of the frame's arrays is
written or counted, whichever class the parser has. -/
theorem run_points_below (env : Environment) [Point Pt] (faultMessage43 faultMessage47 : UdpPacket → Fault → Fault)
    (type : ParserType) (device : DeviceFilter) (udpParser : UdpParser (ParserState type))
    (hparser : udpParser.parser.isSome) (frame : LidarDecodedFrame Pt) (hframe : frame.pointsNum = 0) (info : Fault)
    (fetches : List Fetch) :
    let F := parserCapacity env Pt faultMessage43 faultMessage47 type
    let r := (start udpParser frame info).run env F.toParser device fetches
    (∀ fetch ∈ fetches, fetch.Received F.toFramingParser) →
    (∀ packet ∈ acceptedPackets r.log, F.pointNum packet ≤ kMaxPointsNumPerPacket) →
    InsideFrame r :=
  fun hr hsmall => run_bounded hparser hframe hr hsmall

def xtCapacity : CapacityParser (ParserState .udp61) LidarPointXYZICRT Unit :=
  parserCapacity default LidarPointXYZICRT (fun _ info => info) (fun _ info => info) .udp61

/-- Five packets of 32 points, of which the fourth closes a frame. -/
theorem run_points_below_xt :
    let r := (start (xtParser 0 : UdpParser (ParserState .udp61)) default ()).run default xtCapacity.toParser ⟨0, 0, 0⟩
      (([50, 60, 70, 150, 200].map (xtPacketOf 2 16)).map xtFetch)
    (acceptedPackets r.log).length = 5 ∧ r.val.frame.pointsNum = 64 ∧ InsideFrame r := by
  refine ⟨by decide +kernel, by decide +kernel, ?_⟩
  exact run_points_below default (fun _ info => info) (fun _ info => info) .udp61 ⟨0, 0, 0⟩ (xtParser 0) rfl default rfl
    () (([50, 60, 70, 150, 200].map (xtPacketOf 2 16)).map xtFetch) (fun _ _ _ _ => trivial) (by decide +kernel)

lemma parsePacket_val_of_append (h0 : (s.decode env P packet).val.1 = 0)
    (hscan : (s.decode env P packet).val.2.frame.scanComplete = false)
    (hne : (s.decode env P packet).val.2.frame.packetNum ≠ s.packetIndex)
    (hk : s.packetIndex + 1 < kMaxPacketNumPerFrame) : (s.parsePacket env P packet).val =
      ((s.decode env P packet).val.2.append P packet).val := by
  have hindex : (s.decode env P packet).val.2.packetIndex = s.packetIndex := by
    rw [decode_val]
  have happ : ((s.decode env P packet).val.2.append P packet).val.packetIndex =
      s.packetIndex + 1 := by
    rw [append_val]
    exact congrArg (· + 1) hindex
  rw [parsePacket, val_bind, val_bind, if_neg (by simp [h0]), if_neg (by simp [hscan]), val_bind,
    if_neg (by rwa [hindex]), overflow, if_neg (by omega), val_pure]

section Oversized

def oversized : UdpPacket := UdpPacket.ofBytes [0xEE, 0xFF, 6, 1, 0, 0, 255, 255, 0, 4, 0, 0]

def oversizedFetch : Fetch := ⟨some oversized, true⟩

def loaded : RunState GeneralParser LidarPointXYZICRT Unit :=
  start ⟨some { (default : GeneralParser) with getCorrectionFile := true }, true, 0, 0, 0, true, 1⟩ default ()

structure Took (k : ℕ) (s : RunState GeneralParser LidarPointXYZICRT Unit) : Prop where
  parser : ∃ p, s.udpParser.parser = some p ∧ Udp61Parser.Turned (0, 0, 0) p
  packetIndex : s.packetIndex = k
  packetNum : s.frame.packetNum = k

lemma step_oversized {k : ℕ} {s : RunState GeneralParser LidarPointXYZICRT Unit}
    (hk : k + 1 < kMaxPacketNumPerFrame) (hs : Took k s) :
    Took (k + 1) (s.step default (udp61 default LidarPointXYZICRT Unit) ⟨0, 0, 0⟩ oversizedFetch).val := by
  obtain ⟨p, hp, hq⟩ := hs.parser
  have hlen : ¬oversized.packetLen < 6 := by decide
  obtain ⟨hret, hframe, hparser, -⟩ := UdpParser.decodePacket_val_of_some default
    (udp61 default LidarPointXYZICRT Unit) s.frame hp hlen
  have hdelimited : Delimited default oversized := by decide
  have hazimuth : Udp61Parser.splitAzimuth default oversized (V61.headerAt default oversized) = 0 := by decide
  obtain ⟨h0, hnum, hscan, hquiet⟩ := Udp61Parser.decodePacket_turn s.frame hq
    le_rfl (by decide +kernel) hdelimited
  rw [hazimuth] at hscan hquiet
  have hne : (s.udpParser.decodePacket default (udp61 default LidarPointXYZICRT Unit) s.frame
      oversized).val.frame.packetNum ≠ s.packetIndex := by
    rw [hframe, hs.packetIndex, ← hs.packetNum]
    exact hnum ▸ Nat.succ_ne_self _
  have hlt : s.packetIndex + 1 < kMaxPacketNumPerFrame := by
    rwa [hs.packetIndex]
  have hval := parsePacket_val_of_append (hret.trans h0) ((congrArg _ hframe).trans
    (hscan.trans (by decide +kernel))) hne hlt
  show Took (k + 1) (s.parsePacket default (udp61 default LidarPointXYZICRT Unit) oversized).val
  rw [hval, append_val, decode_val]
  refine ⟨⟨_, hparser, hquiet⟩, congrArg (· + 1) hs.packetIndex, ?_⟩
  exact (congrArg LidarDecodedFrame.packetNum hframe).trans (hnum.trans (congrArg (· + 1) hs.packetNum))

lemma run_oversized {k : ℕ} (hk : k < kMaxPacketNumPerFrame) : Took k (loaded.run default
    (udp61 default LidarPointXYZICRT Unit) ⟨0, 0, 0⟩ (List.replicate k oversizedFetch)).val := by
  induction k with
  | zero => exact ⟨⟨_, rfl, rfl, rfl⟩, rfl, rfl⟩
  | succ k ih =>
    rw [List.replicate_succ', run, runs_append]
    exact step_oversized hk (ih (Nat.lt_of_succ_lt hk))

/-- The 40th such packet is stored behind the end of `pointData`. -/
theorem run_points_outside : ¬AllLog (RunEvent.PointBelow kMaxPointsNumPerFrame) (loaded.run default
    (udp61 default LidarPointXYZICRT Unit) ⟨0, 0, 0⟩ (List.replicate 40 oversizedFetch)) := by
  intro h
  obtain ⟨⟨p, hp, hq⟩, -, hnum⟩ := run_oversized (k := 39) (by decide)
  rw [List.replicate_succ', run, runs_append] at h
  rw [run] at hp hnum
  generalize runs (step default (udp61 default LidarPointXYZICRT Unit) ⟨0, 0, 0⟩)
    (List.replicate 39 oversizedFetch) loaded = r at h hp hnum
  have hstep : AllLog (RunEvent.PointBelow kMaxPointsNumPerFrame)
      (r.val.parsePacket default (udp61 default LidarPointXYZICRT Unit) oversized) :=
    fun e he => h e (List.mem_append_right _ (List.mem_append_left _ he))
  rw [parsePacket, allLog_bind, decode, allLog_bind, access_points, UdpParser.decodePacket,
    if_neg (by decide)] at hstep
  simp only [hp, allLog_bind] at hstep
  have hslot := Udp61Parser.allows_slots.mp hstep.1.1.1
    (Udp61Parser.decodePacket_turn _ hq le_rfl (by decide +kernel) (by decide)).2.1
  have hlast := hslot 2560000 (by rw [hnum]; decide)
  exact absurd hlast (by decide)

end Oversized

end RunState

end HesaiSdk.Driver
