import HesaiSdk.Driver.Run
import HesaiSdk.UdpParser.Framing

namespace HesaiSdk.Driver

open Library Lidar UdpProtocol Parsing

variable {σ Pt Fault : Type}

namespace RunEvent

/-- The packet list that an event puts away: a frame's, or one discarded by the overflow reset. -/
def closedPackets : RunEvent Pt Fault → List UdpPacket
  | .published _ packets => packets
  | .dropped packets => packets
  | .overflow packets => packets
  | _ => []

def acceptedPackets : RunEvent Pt Fault → List UdpPacket
  | .accepted packet => [packet]
  | _ => []

def StampBelow (n : ℕ) : RunEvent Pt Fault → Prop
  | .access (.sensorTimestamp i) => i < n
  | .compute packetIndex => packetIndex < n
  | _ => True

end RunEvent

def closedPackets (history : List (RunEvent Pt Fault)) : List UdpPacket :=
  history.flatMap RunEvent.closedPackets

def acceptedPackets (history : List (RunEvent Pt Fault)) : List UdpPacket :=
  history.flatMap RunEvent.acceptedPackets

@[simp] lemma closedPackets_append (h h' : List (RunEvent Pt Fault)) :
    closedPackets (h ++ h') = closedPackets h ++ closedPackets h' := List.flatMap_append

@[simp] lemma acceptedPackets_append (h h' : List (RunEvent Pt Fault)) :
    acceptedPackets (h ++ h') = acceptedPackets h ++ acceptedPackets h' := List.flatMap_append

@[simp] lemma closedPackets_access (l : List DecodeEvent) :
    closedPackets (l.map RunEvent.access : List (RunEvent Pt Fault)) = [] := by
  simp [closedPackets, List.flatMap_map, RunEvent.closedPackets]

@[simp] lemma acceptedPackets_access (l : List DecodeEvent) :
    acceptedPackets (l.map RunEvent.access : List (RunEvent Pt Fault)) = [] := by
  simp [acceptedPackets, List.flatMap_map, RunEvent.acceptedPackets]

def Fetch.Received (F : FramingParser σ Pt Fault) (fetch : Fetch) : Prop :=
  ∀ packet ∈ fetch.packet, F.Received packet

namespace RunState

variable {env : Environment} {P : Parser σ Pt Fault} {F : FramingParser σ Pt Fault} {device : DeviceFilter}
  {s : RunState σ Pt Fault} {packet : UdpPacket} {sourceType : ℤ}

structure InStep (sourceType : ℤ) (s : RunState σ Pt Fault) : Prop where
  parser : s.udpParser.Ready sourceType
  packetNum : s.frame.packetNum = s.packetIndex
  length : s.udpPacketFrame.length = s.packetIndex
  below : s.packetIndex < kMaxPacketNumPerFrame

structure FrameInv (sourceType : ℤ) (history : List (RunEvent Pt Fault)) (s : RunState σ Pt Fault) : Prop extends
    InStep sourceType s where
  partition : closedPackets history ++ s.udpPacketFrame = acceptedPackets history

lemma decode_val : (s.decode env P packet).val =
    ((s.udpParser.decodePacket env P s.frame packet).val.ret,
      { s with
        udpParser := (s.udpParser.decodePacket env P s.frame packet).val.parser
        frame := (s.udpParser.decodePacket env P s.frame packet).val.frame }) := by
  rw [decode, val_bind, val_pure, val_relabel]

lemma decode_log : (s.decode env P packet).log =
    (s.udpParser.decodePacket env P s.frame packet).log.map .access := by
  rw [decode, log_bind, log_relabel, log_pure, List.append_nil]

lemma decode_of_some (env : Environment) (P : Parser σ Pt Fault) {p : σ} (hp : s.udpParser.parser = some p)
    (hlen : ¬packet.packetLen < 6) :
    let d := (P.decodePacket p s.frame packet).val
    let e := (s.decode env P packet).val
    e.1 = d.ret ∧ e.2.frame = d.frame ∧ e.2.udpParser.parser = some d.parser := by
  obtain ⟨hret, hframe, hparser, -⟩ := UdpParser.decodePacket_val_of_some env P s.frame hp hlen
  rw [decode_val]
  exact ⟨hret, hframe, hparser⟩

lemma append_val : (s.append P packet).val = ((s.compute P).val.count packet) := by
  rw [append, val_bind, val_bind, val_pure]

@[simp] lemma closedPackets_append_log : closedPackets (s.append P packet).log = [] := by
  simp only [append, compute, log_bind, log_note, log_relabel, log_pure, List.append_nil,
    closedPackets_append, closedPackets_access]
  rfl

@[simp] lemma acceptedPackets_append_log : acceptedPackets (s.append P packet).log = [] := by
  simp only [append, compute, log_bind, log_note, log_relabel, log_pure, List.append_nil,
    acceptedPackets_append, acceptedPackets_access]
  rfl

@[simp] lemma closedPackets_publish : closedPackets [s.publish] = s.udpPacketFrame := by
  rw [publish]
  split <;> simp [closedPackets, RunEvent.closedPackets]

@[simp] lemma acceptedPackets_publish : acceptedPackets [s.publish] = [] := by
  rw [publish]
  split <;> simp [acceptedPackets, RunEvent.acceptedPackets]

lemma InStep.decode (env : Environment) (hs : InStep sourceType s) (hr : F.Received packet) :
    let d := (s.decode env F.toParser packet).val
    d.2.udpParser.Ready sourceType ∧ d.2.packetIndex = s.packetIndex ∧ d.2.udpPacketFrame = s.udpPacketFrame ∧
    (d.1 ≠ 0 ∧ d.2.frame.packetNum = s.packetIndex ∨
    (d.1 = 0 ∧ d.2.frame.packetNum = s.packetIndex + 1 ∧ ∀ t : RunState σ Pt Fault,
      t.udpParser = d.2.udpParser →
      (t.decode env F.toParser packet).val.2.frame.packetNum = t.frame.packetNum + 1) ∨
    d.1 = 0 ∧ d.2.frame.packetNum = s.packetIndex ∧ d.2.frame.scanComplete = true) := by
  have hparser := hs.parser.decodePacket env F s.frame packet
  have hc := UdpParser.decodePacket_counts env s.frame hs.parser.parser hr
  rw [decode_val]
  dsimp only at hc ⊢
  rw [hs.packetNum] at hc
  refine ⟨hparser, rfl, rfl, ?_⟩
  rcases hc with h | ⟨h0, h1, ha⟩ | ⟨h0, h1, hscan, -⟩
  · exact Or.inl h
  · refine Or.inr (Or.inl ⟨h0, h1, fun t ht => ?_⟩)
    rw [decode_val, ht]
    exact (ha t.frame).2
  · exact Or.inr (Or.inr ⟨h0, h1, hscan⟩)

@[simp] lemma closedPackets_decode_log : closedPackets (s.decode env P packet).log = [] := by
  rw [decode_log, closedPackets_access]

@[simp] lemma acceptedPackets_decode_log : acceptedPackets (s.decode env P packet).log = [] := by
  rw [decode_log, acceptedPackets_access]

lemma kMaxPacketNumPerFrame_pos : 0 < kMaxPacketNumPerFrame := by decide

lemma splitFrame_inv {history : List (RunEvent Pt Fault)} (hparser : s.udpParser.Ready sourceType)
    (hcase : s.frame.packetNum = s.packetIndex ∧
        closedPackets history ++ s.udpPacketFrame = acceptedPackets history ∨
      s.frame.packetNum ≠ s.packetIndex ∧
        closedPackets history ++ s.udpPacketFrame ++ [packet] = acceptedPackets history ∧
        ∀ t : RunState σ Pt Fault, t.udpParser = s.udpParser →
          (t.decode env F.toParser packet).val.2.frame.packetNum = t.frame.packetNum + 1) :
    FrameInv sourceType (history ++ (s.splitFrame env F.toParser packet).log)
      (s.splitFrame env F.toParser packet).val := by
  rw [splitFrame, log_bind, val_bind, log_note]
  have hended : s.endFrame.udpPacketFrame = s.udpPacketFrame := rfl
  rcases hcase with ⟨hn, hp⟩ | ⟨hn, hp, hagain⟩
  · rw [if_pos hn, log_pure, val_pure, List.append_nil]
    refine ⟨⟨hparser, rfl, rfl, kMaxPacketNumPerFrame_pos⟩, ?_⟩
    rw [closedPackets_append, acceptedPackets_append, closedPackets_publish, acceptedPackets_publish, hended, hp]
    rfl
  · rw [if_neg hn, val_bind, log_bind, append_val]
    have hd := hagain s.endFrame.restart rfl
    have hdec : (s.endFrame.restart.decode env F.toParser packet).val.2.udpParser.Ready sourceType := by
      rw [decode_val]
      exact hparser.decodePacket env F _ packet
    refine ⟨⟨hdec, hd, rfl, (by decide : 0 + 1 < kMaxPacketNumPerFrame)⟩, ?_⟩
    simp only [closedPackets_append, acceptedPackets_append, closedPackets_publish, acceptedPackets_publish,
      closedPackets_decode_log, acceptedPackets_decode_log, closedPackets_append_log,
      acceptedPackets_append_log, List.append_nil, hended, ← hp]
    rfl

lemma overflow_inv {history : List (RunEvent Pt Fault)} (hparser : s.udpParser.Ready sourceType)
    (hnum : s.frame.packetNum = s.packetIndex) (hlen : s.udpPacketFrame.length = s.packetIndex)
    (hp : closedPackets history ++ s.udpPacketFrame = acceptedPackets history) :
    FrameInv sourceType (history ++ s.overflow.log) s.overflow.val := by
  rw [overflow]
  split_ifs with hover
  · refine ⟨⟨hparser, rfl, rfl, kMaxPacketNumPerFrame_pos⟩, ?_⟩
    simp only [log_bind, log_note, log_pure, List.append_nil, closedPackets_append, acceptedPackets_append, ← hp]
    simp [closedPackets, acceptedPackets, RunEvent.closedPackets, RunEvent.acceptedPackets, restart]
  · refine ⟨⟨hparser, hnum, hlen, Nat.lt_of_not_le hover⟩, ?_⟩
    rwa [log_pure, val_pure, List.append_nil]

lemma parsePacket_inv {history : List (RunEvent Pt Fault)} (hs : FrameInv sourceType history s)
    (hr : F.Received packet) :
    FrameInv sourceType (history ++ (s.parsePacket env F.toParser packet).log)
      (s.parsePacket env F.toParser packet).val := by
  obtain ⟨hparser, hindex, hlist, hcases⟩ := hs.toInStep.decode env hr
  have hhist : closedPackets (history ++ (s.decode env F.toParser packet).log) ++ s.udpPacketFrame =
      acceptedPackets (history ++ (s.decode env F.toParser packet).log) := by
    simpa using hs.partition
  rw [parsePacket, val_bind, log_bind, val_bind, log_bind, ← List.append_assoc]
  generalize hd : (s.decode env F.toParser packet).val = d at *
  generalize history ++ (s.decode env F.toParser packet).log = history at *
  rw [acceptedIf, hs.packetNum]
  rcases hcases with ⟨h0, hnum⟩ | ⟨h0, hnum, hagain⟩ | ⟨h0, hnum, hscan⟩
  case inl =>
    rw [if_neg (by simp [h0]), if_pos h0, log_pure, log_pure, val_pure]
    refine ⟨⟨hparser, hnum.trans hindex.symm, ?_, ?_⟩, ?_⟩
    · rw [hlist, hindex, hs.length]
    · rw [hindex]
      exact hs.below
    · rw [hlist]
      simpa using hhist
  case inr.inl =>
    rw [if_pos ⟨h0, hnum⟩, if_neg (by simp [h0]), log_note, ← List.append_assoc]
    have hacc : closedPackets (history ++ [.accepted packet]) ++ s.udpPacketFrame ++ [packet] =
        acceptedPackets (history ++ [.accepted packet]) := by
      rw [closedPackets_append, acceptedPackets_append, ← hhist]
      exact congrArg (· ++ [packet]) (congrArg (· ++ s.udpPacketFrame) (List.append_nil _))
    have hne : d.2.frame.packetNum ≠ d.2.packetIndex := by
      rw [hnum, hindex]
      exact Nat.succ_ne_self _
    split_ifs with hscan
    · exact splitFrame_inv hparser (Or.inr ⟨hne, by rwa [hlist], hagain⟩)
    · rw [val_bind, log_bind, append_val, ← List.append_assoc]
      apply overflow_inv
      · exact hparser
      · show d.2.frame.packetNum = d.2.packetIndex + 1
        rw [hnum, hindex]
      · show (d.2.udpPacketFrame ++ [packet]).length = d.2.packetIndex + 1
        rw [List.length_append, hlist, hindex, hs.length, List.length_singleton]
      · rw [closedPackets_append, acceptedPackets_append, closedPackets_append_log,
          acceptedPackets_append_log, List.append_nil, List.append_nil, ← hacc, ← hlist, List.append_assoc]
        rfl
  case inr.inr =>
    rw [if_neg (by simp [hnum]), if_neg (by simp [h0]), if_pos hscan, log_pure, List.nil_append]
    exact splitFrame_inv hparser (Or.inl ⟨hnum.trans hindex.symm, by rwa [hlist]⟩)

lemma parseFault_val : (s.parseFault P packet).val =
    { s with faultMessageInfo := (s.udpParser.parserFaultMessage P packet s.faultMessageInfo).2 } := by
  rw [parseFault]
  split_ifs <;> rfl

lemma parseFault_inv {history : List (RunEvent Pt Fault)} (hs : FrameInv sourceType history s) :
    FrameInv sourceType (history ++ (s.parseFault F.toParser packet).log) (s.parseFault F.toParser packet).val := by
  have hclosed : closedPackets (s.parseFault F.toParser packet).log = [] := by
    rw [parseFault]
    split_ifs <;> rfl
  have haccepted : acceptedPackets (s.parseFault F.toParser packet).log = [] := by
    rw [parseFault]
    split_ifs <;> rfl
  rw [parseFault_val]
  refine ⟨⟨hs.parser, hs.packetNum, hs.length, hs.below⟩, ?_⟩
  rw [closedPackets_append, acceptedPackets_append, hclosed, haccepted, List.append_nil, List.append_nil]
  exact hs.partition

lemma classify_cases (device : DeviceFilter) (packetIndex : ℕ) (fetch : Fetch) :
    device.classify packetIndex fetch = .skip ∨
    ∃ packet ∈ fetch.packet, device.classify packetIndex fetch = .fault packet ∨
      device.classify packetIndex fetch = .decode packet := by
  rw [DeviceFilter.classify]
  cases hp : fetch.packet with
  | none => exact Or.inl rfl
  | some packet =>
    dsimp only
    split_ifs
    · exact Or.inl rfl
    · exact Or.inr ⟨packet, rfl, Or.inl rfl⟩
    · exact Or.inl rfl
    · exact Or.inl rfl
    · exact Or.inr ⟨packet, rfl, Or.inr rfl⟩

lemma step_inv {history : List (RunEvent Pt Fault)} {fetch : Fetch} (hr : fetch.Received F)
    (hs : FrameInv sourceType history s) :
    FrameInv sourceType (history ++ (s.step env F.toParser device fetch).log)
      (s.step env F.toParser device fetch).val := by
  rw [step]
  rcases classify_cases device s.packetIndex fetch with h | ⟨packet, hp, h | h⟩
  · simpa [h] using hs
  · rw [h]
    exact parseFault_inv hs
  · rw [h]
    exact parsePacket_inv hs (hr packet hp)

section Stamps

lemma allows_access {x : Logged DecodeEvent α} {n : ℕ} :
    AllLog (RunEvent.StampBelow n : RunEvent Pt Fault → Prop) (relabel .access x) ↔
      AllLog (Bounds.Allows { sensorTimestamp := (· < n) }) x := by
  apply allLog_relabel
  intro a
  cases a <;> exact Iff.rfl

lemma decode_stamps (hr : F.Received packet) (ht : s.udpParser.sourceType = 2 → packet.isTimeout = false)
    (hn : s.frame.packetNum < kMaxPacketNumPerFrame) :
    AllLog (RunEvent.StampBelow kMaxPacketNumPerFrame) (s.decode env F.toParser packet) := by
  rw [decode, allLog_bind]
  exact ⟨allows_access.mpr (UdpParser.decodePacket_stampIndex hr ht hn hn), allLog_pure _⟩

lemma append_stamps (hn : s.packetIndex < kMaxPacketNumPerFrame) :
    AllLog (RunEvent.StampBelow kMaxPacketNumPerFrame) (s.append F.toParser packet) := by
  rw [append, compute]
  simp only [allLog_bind, allLog_note, allLog_pure, and_true]
  exact ⟨⟨hn, allows_access.mpr (UdpParser.computeXYZI_index hn)⟩, trivial⟩

lemma overflow_stamps : AllLog (RunEvent.StampBelow kMaxPacketNumPerFrame) s.overflow := by
  rw [overflow]
  split_ifs <;> simp [RunEvent.StampBelow]

lemma splitFrame_stamps (hr : F.Received packet) (ht : s.udpParser.sourceType = 2 → packet.isTimeout = false) :
    AllLog (RunEvent.StampBelow kMaxPacketNumPerFrame) (s.splitFrame env F.toParser packet) := by
  rw [splitFrame, allLog_bind, allLog_note]
  constructor
  · rw [publish]
    split_ifs <;> trivial
  · split_ifs
    · exact allLog_pure _
    · rw [allLog_bind]
      refine ⟨decode_stamps hr ht kMaxPacketNumPerFrame_pos, append_stamps ?_⟩
      rw [decode_val]
      exact kMaxPacketNumPerFrame_pos

lemma parsePacket_stamps (hs : InStep sourceType s) (hr : F.Received packet)
    (ht : s.udpParser.sourceType = 2 → packet.isTimeout = false) :
    AllLog (RunEvent.StampBelow kMaxPacketNumPerFrame) (s.parsePacket env F.toParser packet) := by
  have hn : s.frame.packetNum < kMaxPacketNumPerFrame := by
    rw [hs.packetNum]
    exact hs.below
  have hsource : (s.decode env F.toParser packet).val.2.udpParser.sourceType = s.udpParser.sourceType := by
    rw [decode_val]
    exact ((hs.parser.decodePacket env F _ packet).source.trans hs.parser.source.symm)
  have hindex : (s.decode env F.toParser packet).val.2.packetIndex < kMaxPacketNumPerFrame := by
    rw [decode_val]
    exact hs.below
  rw [parsePacket, allLog_bind, allLog_bind]
  refine ⟨decode_stamps hr ht hn, ?_, ?_⟩
  · rw [acceptedIf]
    split_ifs <;> simp [RunEvent.StampBelow]
  · split_ifs
    · exact allLog_pure _
    · exact splitFrame_stamps hr (by rwa [hsource])
    · exact allLog_bind.mpr ⟨allLog_pure _, overflow_stamps⟩
    · exact allLog_bind.mpr ⟨append_stamps hindex, overflow_stamps⟩

lemma step_stamps {fetch : Fetch} (hs : InStep sourceType s) (hr : fetch.Received F)
    (ht : s.udpParser.sourceType = 2 → ∀ packet ∈ fetch.packet, packet.isTimeout = false) :
    AllLog (RunEvent.StampBelow kMaxPacketNumPerFrame) (s.step env F.toParser device fetch) := by
  rw [step]
  rcases classify_cases device s.packetIndex fetch with h | ⟨packet, hp, h | h⟩
  · rw [h]
    exact allLog_pure _
  · rw [h]
    show AllLog _ (s.parseFault F.toParser packet)
    rw [parseFault]
    split_ifs <;> simp [RunEvent.StampBelow]
  · rw [h]
    exact parsePacket_stamps hs (hr packet hp) fun h2 => ht h2 packet hp

end Stamps

lemma run_inv {fetches : List Fetch} (hs : FrameInv sourceType [] s) (hr : ∀ fetch ∈ fetches, fetch.Received F) :
    FrameInv sourceType (s.run env F.toParser device fetches).log (s.run env F.toParser device fetches).val :=
  runs_invariant (P := FrameInv sourceType) (C := Fetch.Received F) (fun _ _ _ hf hs => step_inv hf hs) hr hs

lemma run_stamps {fetches : List Fetch} (hs : FrameInv sourceType [] s)
    (hr : ∀ fetch ∈ fetches, fetch.Received F)
    (ht : sourceType = 2 → ∀ fetch ∈ fetches, ∀ packet ∈ fetch.packet, packet.isTimeout = false) :
    AllLog (RunEvent.StampBelow kMaxPacketNumPerFrame) (s.run env F.toParser device fetches) := by
  let C (fetch : Fetch) : Prop := fetch.Received F ∧
    (sourceType = 2 → ∀ packet ∈ fetch.packet, packet.isTimeout = false)
  let P (history : List (RunEvent Pt Fault)) (s : RunState σ Pt Fault) : Prop :=
    FrameInv sourceType history s ∧ ∀ e ∈ history, e.StampBelow kMaxPacketNumPerFrame
  have hstep (history : List (RunEvent Pt Fault)) (s : RunState σ Pt Fault) (fetch : Fetch) (hf : C fetch)
      (h : P history s) : P (history ++ (s.step env F.toParser device fetch).log)
        (s.step env F.toParser device fetch).val := by
    refine ⟨step_inv hf.1 h.1, fun e he => ?_⟩
    rcases List.mem_append.mp he with he | he
    · exact h.2 e he
    · exact step_stamps h.1.toInStep hf.1 (h.1.parser.source ▸ hf.2) e he
  have h0 : P [] s := ⟨hs, by simp⟩
  exact (runs_invariant (P := P) (C := C) hstep (fun fetch hf => ⟨hr fetch hf, fun h2 => ht h2 fetch hf⟩) h0).2

lemma step_boundary {fetch : Fetch} (hs : InStep sourceType s)
    (hclass : device.classify s.packetIndex fetch = .decode packet)
    (hret : (s.decode env F.toParser packet).val.1 = 0)
    (hscan : (s.decode env F.toParser packet).val.2.frame.scanComplete = true)
    (hnum : (s.decode env F.toParser packet).val.2.frame.packetNum ≠ s.frame.packetNum) :
    closedPackets (s.step env F.toParser device fetch).log = s.udpPacketFrame ∧
      (s.step env F.toParser device fetch).val.udpPacketFrame = [packet] := by
  have hne : (s.decode env F.toParser packet).val.2.frame.packetNum ≠
      (s.decode env F.toParser packet).val.2.packetIndex := by
    rw [hs.packetNum] at hnum
    exact hnum
  have hacc : closedPackets (acceptedIf packet s.frame.packetNum (s.decode env F.toParser packet).val).log =
      ([] : List UdpPacket) := by
    rw [acceptedIf]
    split_ifs <;> rfl
  rw [step, hclass]
  show closedPackets (s.parsePacket env F.toParser packet).log = _ ∧
    (s.parsePacket env F.toParser packet).val.udpPacketFrame = _
  rw [parsePacket, val_bind, log_bind, val_bind, log_bind, if_neg (by simp [hret]), if_pos hscan,
    splitFrame, log_bind, val_bind, if_neg hne, log_bind, val_bind, log_note, append_val]
  simp only [closedPackets_append, closedPackets_decode_log, hacc, closedPackets_publish,
    closedPackets_append_log, List.append_nil, List.nil_append]
  exact ⟨rfl, rfl⟩

section Results

/-- At every head of the loop the counters agree and the closed lists, followed by the current one,
are the accepted packets. -/
theorem run_packets (env : Environment) (F : FramingParser σ Pt Fault) (device : DeviceFilter)
    (udpParser : UdpParser σ) (hparser : udpParser.parser.isSome) (frame : LidarDecodedFrame Pt) (info : Fault)
    (fetches : List Fetch) (hr : ∀ fetch ∈ fetches, fetch.Received F) :
    let r := (start udpParser frame info).run env F.toParser device fetches
    (r.val.packetIndex = r.val.frame.packetNum ∧ r.val.packetIndex = r.val.udpPacketFrame.length ∧
      r.val.packetIndex < kMaxPacketNumPerFrame) ∧
    closedPackets r.log ++ r.val.udpPacketFrame = acceptedPackets r.log ∧
    ((udpParser.sourceType = 2 → ∀ fetch ∈ fetches, ∀ packet ∈ fetch.packet, packet.isTimeout = false) →
      AllLog (RunEvent.StampBelow kMaxPacketNumPerFrame) r) ∧
    ∀ fetch packet, device.classify r.val.packetIndex fetch = .decode packet →
      let d := (r.val.decode env F.toParser packet).val
      d.1 = 0 → d.2.frame.scanComplete = true → d.2.frame.packetNum ≠ r.val.frame.packetNum →
      closedPackets (r.val.step env F.toParser device fetch).log = r.val.udpPacketFrame ∧
        (r.val.step env F.toParser device fetch).val.udpPacketFrame = [packet] := by
  intro r
  have h0 : FrameInv udpParser.sourceType [] (start udpParser frame info) :=
    ⟨⟨⟨hparser, rfl⟩, rfl, rfl, kMaxPacketNumPerFrame_pos⟩, rfl⟩
  have h : FrameInv udpParser.sourceType r.log r.val := run_inv h0 hr
  refine ⟨⟨h.packetNum.symm, h.length.symm, h.below⟩, h.partition, fun ht => run_stamps h0 hr ht, ?_⟩
  intro fetch packet hclass d hret hscan hnum
  exact step_boundary h.toInStep hclass hret hscan hnum

/-- An XT packet whose blocks lie all at one azimuth. -/
def xtPacketOf (blockNum laserNum azimuth : UInt8) : UdpPacket :=
  { (default : UdpPacket) with
    buffer := fun i => match i.val with
      | 0 => 0xEE
      | 1 => 0xFF
      | 2 => 6
      | 3 => 1
      | 6 => laserNum
      | 7 => blockNum
      | 9 => 4
      | i => if 12 ≤ i ∧ (i - 12) % (2 + 4 * laserNum.toNat) = 0 then azimuth else 0
    packetLen := 1500 }

/-- Frames start at one degree, between azimuth 70 and azimuth 150. -/
def xtParser (lastAzimuth : ℤ) : UdpParser GeneralParser :=
  ⟨some { (default : GeneralParser) with
    getCorrectionFile := true
    frameStartAzimuth := 1
    lastAzimuth := lastAzimuth }, true, 0, 0, 0, true, 1⟩

def xtFetch (packet : UdpPacket) : Fetch := ⟨some packet, true⟩

def xtRun (packets : List UdpPacket) :
    Logged (RunEvent LidarPointXYZICRT Unit) (RunState GeneralParser LidarPointXYZICRT Unit) :=
  (start (xtParser 0) default ()).run default (udp61Framing default LidarPointXYZICRT Unit).toParser ⟨0, 0, 0⟩
    (packets.map xtFetch)

/-- The fourth packet closes a frame of three and is decoded again as the first of the next. -/
theorem run_packets_xt :
    let r := xtRun ([50, 60, 70, 150, 200].map (xtPacketOf 2 16))
    let s := xtRun ([50, 60, 70].map (xtPacketOf 2 16))
    (r.val.packetIndex = r.val.frame.packetNum ∧ r.val.packetIndex = 2 ∧ (closedPackets r.log).length = 3) ∧
    closedPackets r.log ++ r.val.udpPacketFrame = acceptedPackets r.log ∧
    AllLog (RunEvent.StampBelow kMaxPacketNumPerFrame) r ∧
    let t := s.val.step default (udp61Framing default LidarPointXYZICRT Unit).toParser ⟨0, 0, 0⟩
      (xtFetch (xtPacketOf 2 16 150))
    closedPackets t.log = s.val.udpPacketFrame ∧ t.val.udpPacketFrame = [xtPacketOf 2 16 150] := by
  intro r s
  have hrun (packets : List UdpPacket) := run_packets default (udp61Framing default LidarPointXYZICRT Unit) ⟨0, 0, 0⟩
    (xtParser 0) rfl default () (packets.map xtFetch) fun _ _ _ _ => trivial
  obtain ⟨⟨hnum, -, -⟩, hpackets, hstamps, -⟩ := hrun ([50, 60, 70, 150, 200].map (xtPacketOf 2 16))
  obtain ⟨-, -, -, hboundary⟩ := hrun ([50, 60, 70].map (xtPacketOf 2 16))
  refine ⟨⟨hnum, by decide +kernel, by decide +kernel⟩, hpackets, hstamps fun h => absurd h (by decide), ?_⟩
  exact hboundary _ _ rfl (by decide +kernel) (by decide +kernel) (by decide +kernel)

end Results

end RunState

end HesaiSdk.Driver
