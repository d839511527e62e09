import HesaiSdk.Driver.Completion
import HesaiSdk.UdpParser.PointParsers

/-! What the worker threads leave in the points of a frame, in whatever order they compute them. -/

namespace HesaiSdk.Driver

open Library Library.Transition Lidar UdpProtocol Parsing

variable {σ Pt Fault Cal : Type} {n : ℕ} {env : Environment} {F : PointParser σ Pt Fault Cal} {c : Cal}
  {device : DeviceFilter} {shape : Shape} {packets : List UdpPacket} {packet : UdpPacket} {m k : ℕ}
  {main : RunState σ Pt Fault} {sequential : ℕ → Pt} {writes : ℕ → ℕ} {u : Multiset ℕ} {sourceType : ℤ}

/-- The points of a frame of one shape, with `m` of its packets pushed and those of `u` not computed
yet: computing a slot now or having computed it gives what the sequential run has put there. -/
structure Data (F : PointParser σ Pt Fault Cal) (c : Cal) (shape : Shape) (packets : List UdpPacket) (m : ℕ)
    (main : RunState σ Pt Fault) (sequential : ℕ → Pt) (writes : ℕ → ℕ) (u : Multiset ℕ) : Prop where
  shaped : packets ≠ [] → Shaped F.shape shape main.frame
  pointsNum : main.frame.pointsNum = main.udpPacketFrame.length * shape.pointNum
  waiting : ∀ k < m, k ∈ u → ∀ i, shape.Slot k i →
    (main.udpParser.computeXYZI F.toParser main.frame k).val i = sequential i ∧ writes i = 0
  done : ∀ k < m, k ∉ u → ∀ i, shape.Slot k i → main.frame.points i = sequential i ∧
    writes i = if F.written c shape main.frame.pointData k i = true then 1 else 0
  rest : ∀ i, (∀ k < m, ¬shape.Slot k i) → main.frame.points i = sequential i ∧ writes i = 0

namespace Data

lemma fresh (hp : main.frame.pointsNum = 0) (hl : main.udpPacketFrame = []) :
    Data F c shape [] 0 main main.frame.points (fun _ => 0) u where
  shaped h := absurd rfl h
  pointsNum := by rw [hp, hl, List.length_nil, Nat.zero_mul]
  waiting _ h := absurd h (Nat.not_lt_zero _)
  done _ h := absurd h (Nat.not_lt_zero _)
  rest _ _ := ⟨rfl, rfl⟩

lemma compute (hd : Data F c shape packets m main sequential writes (k ::ₘ u)) (hpackets : packets ≠ [])
    (hparser : main.udpParser.parser.isSome) (hc : main.udpParser.calibration F = some c) (hk : k < m)
    (hn : (k ::ₘ u).Nodup) :
    let points := main.udpParser.computeXYZI F.toParser main.frame k
    Data F c shape packets m { main with frame := { main.frame with points := points.val } } sequential
      (fun i => writes i + points.log.count (.point i)) u := by
  have hshape := hd.shaped hpackets
  have hku : k ∉ u := (Multiset.nodup_cons.mp hn).1
  have hcount (i : ℕ) : (main.udpParser.computeXYZI F.toParser main.frame k).log.count (.point i) =
      if shape.Slot k i ∧ F.written c shape main.frame.pointData k i = true then 1 else 0 :=
    UdpParser.computeXYZI_count hc hshape
  have hother (i : ℕ) (hi : ¬shape.Slot k i) : (main.udpParser.computeXYZI F.toParser main.frame k).val i =
      main.frame.points i := UdpParser.computeXYZI_of_not_slot hshape hi
  intro points
  have hshape' : Shaped F.shape shape { main.frame with points := points.val } := hshape.transfer rfl rfl rfl rfl
  refine ⟨fun _ => hshape', hd.pointsNum, fun j hj hju i hi => ?_, fun j hj hju i hi => ?_, fun i hi => ?_⟩
  · have hne : ¬shape.Slot k i := by
      intro h
      rw [Shape.slot_unique h hi] at hku
      exact hku hju
    obtain ⟨hc, hw⟩ := hd.waiting j hj (Multiset.mem_cons_of_mem hju) i hi
    refine ⟨?_, ?_⟩
    · rw [← hc]
      exact UdpParser.computeXYZI_congr hparser rfl hshape' hshape hi ⟨rfl, rfl, fun _ _ => rfl, hother i hne⟩
    · show writes i + points.log.count (.point i) = 0
      rw [hcount, if_neg fun h => hne h.1, hw]
  · by_cases hjk : j = k
    · subst hjk
      obtain ⟨hc, hw⟩ := hd.waiting j hj (Multiset.mem_cons_self j u) i hi
      refine ⟨hc, ?_⟩
      show writes i + points.log.count (.point i) = _
      rw [hcount, hw, Nat.zero_add]
      simp only [hi, true_and]
    · have hne : ¬shape.Slot k i := fun h => hjk (Shape.slot_unique hi h)
      have hnot : j ∉ k ::ₘ u := fun h => (Multiset.mem_cons.mp h).elim hjk hju
      obtain ⟨hp, hw⟩ := hd.done j hj hnot i hi
      refine ⟨(hother i hne).trans hp, ?_⟩
      show writes i + points.log.count (.point i) = _
      rw [hcount, if_neg fun h => hne h.1]
      exact hw
  · have hne := hi k hk
    obtain ⟨hp, hw⟩ := hd.rest i hi
    refine ⟨(hother i hne).trans hp, ?_⟩
    show writes i + points.log.count (.point i) = 0
    rw [hcount, if_neg fun h => hne h.1, hw]

lemma transfer {main' : RunState σ Pt Fault} {packets' : List UdpPacket}
    (hd : Data F c shape packets m main sequential writes u) (hparser : main.udpParser.parser.isSome)
    (hcal : main'.udpParser.calibration F = main.udpParser.calibration F) (hm : m ≤ packets.length)
    (hm' : packets.length ≤ packets'.length) (hshape : packets' ≠ [] → Shaped F.shape shape main'.frame)
    (hnum : main'.frame.pointsNum = main'.udpPacketFrame.length * shape.pointNum)
    (hpoints : main'.frame.points = main.frame.points)
    (hsame : ∀ k < m, ∀ i, shape.Slot k i → SameInput shape k i main.frame main'.frame) :
    Data F c shape packets' m main' sequential writes u := by
  refine ⟨hshape, hnum, fun j hj hju i hi => ?_, fun j hj hju i hi => ?_, fun i hi => ?_⟩
  · obtain ⟨hc, hw⟩ := hd.waiting j hj hju i hi
    refine ⟨?_, hw⟩
    have hold := hd.shaped (List.ne_nil_of_length_pos (by omega))
    have hnew := hshape (List.ne_nil_of_length_pos (by omega))
    rw [← hc]
    exact (UdpParser.computeXYZI_congr hparser hcal.symm hold hnew hi (hsame j hj i hi)).symm
  · rw [hpoints, ← F.writtenFrom c shape main.frame.pointData _ j i (hsame j hj i hi).pointData hi]
    exact hd.done j hj hju i hi
  · rw [hpoints]
    exact hd.rest i hi

lemma rejected {main' : RunState σ Pt Fault} {b : Bool} {num : ℕ}
    (hd : Data F c shape packets m main sequential writes u) (hparser : main.udpParser.parser.isSome)
    (hcal : main'.udpParser.calibration F = main.udpParser.calibration F) (hm : m ≤ packets.length)
    (hlist : main'.udpPacketFrame = main.udpPacketFrame)
    (hframe : main'.frame = { main.frame with scanComplete := b, packetNum := num }) :
    Data F c shape packets m main' sequential writes u := by
  apply hd.transfer hparser hcal hm le_rfl
  · intro hp
    rw [hframe]
    exact (hd.shaped hp).transfer rfl rfl rfl rfl
  · rw [hlist, hframe]
    exact hd.pointsNum
  · rw [hframe]
  · intro k _ i _
    rw [hframe]
    exact ⟨rfl, rfl, fun _ _ => rfl, rfl⟩

lemma stored {main' : RunState σ Pt Fault} (hd : Data F c shape packets m main sequential writes u)
    (hparser : main.udpParser.parser.isSome)
    (hcal : main'.udpParser.calibration F = main.udpParser.calibration F) (hm : m ≤ packets.length)
    (hlist : main'.udpPacketFrame = main.udpPacketFrame) (hnum : main.frame.packetNum = m)
    (hframe : Stored shape main.frame main'.frame) (hpacket : F.shape packet = shape) :
    Data F c shape (packets ++ [packet]) m main' sequential writes u := by
  apply hd.transfer hparser hcal hm
  · rw [List.length_append]
    exact Nat.le_add_right _ _
  · exact fun _ => hframe.shaped hpacket
  · rw [hframe.pointsNum, hlist]
    exact hd.pointsNum
  · exact hframe.points
  · intro k hk i hi
    have hne : k ≠ main.frame.packetNum := by omega
    refine ⟨hframe.config.symm, (hframe.sensorTimestamp k hne).symm, fun j hj => ?_, ?_⟩
    · exact (hframe.pointData k hne j hj).symm
    · rw [hframe.points]

lemma push (hd : Data F c shape packets m main sequential writes u) (hpackets : packets ≠ [])
    (hparser : main.udpParser.parser.isSome) :
    Data F c shape packets (m + 1) main
      (main.udpParser.computeXYZI F.toParser { main.frame with points := sequential } m).val writes (m ::ₘ u) := by
  have hshape := hd.shaped hpackets
  have hshape' : Shaped F.shape shape { main.frame with points := sequential } := hshape.transfer rfl rfl rfl rfl
  have hother (i : ℕ) (hi : ¬shape.Slot m i) :
      (main.udpParser.computeXYZI F.toParser { main.frame with points := sequential } m).val i =
        sequential i := UdpParser.computeXYZI_of_not_slot hshape' hi
  have hne {j i : ℕ} (hj : j ≠ m) (hi : shape.Slot j i) : ¬shape.Slot m i := fun h => hj (Shape.slot_unique hi h)
  refine ⟨hd.shaped, hd.pointsNum, fun j hj hju i hi => ?_, fun j hj hju i hi => ?_, fun i hi => ?_⟩
  · by_cases hjm : j = m
    · subst hjm
      have hnone : ∀ k < j, ¬shape.Slot k i := fun k hk h => absurd (Shape.slot_unique h hi) hk.ne
      obtain ⟨hp, hw⟩ := hd.rest i hnone
      exact ⟨UdpParser.computeXYZI_congr hparser rfl hshape hshape' hi ⟨rfl, rfl, fun _ _ => rfl, hp⟩, hw⟩
    · rw [hother i (hne hjm hi)]
      exact hd.waiting j (by omega) ((Multiset.mem_cons.mp hju).resolve_left hjm) i hi
  · have hjm : j ≠ m := fun h => hju (h ▸ Multiset.mem_cons_self m u)
    rw [hother i (hne hjm hi)]
    exact hd.done j (by omega) (fun h => hju (Multiset.mem_cons_of_mem h)) i hi
  · rw [hother i (hi m (Nat.lt_succ_self m))]
    exact hd.rest i fun k hk => hi k (Nat.lt_succ_of_lt hk)

lemma count (hd : Data F c shape packets m main sequential writes u) (hparser : main.udpParser.parser.isSome)
    (hpackets : packets ≠ []) (hm : m ≤ packets.length) :
    Data F c shape packets m (main.count packet) sequential writes u := by
  have hshape := hd.shaped hpackets
  have hcal : (main.count packet).udpParser.calibration F = main.udpParser.calibration F := rfl
  apply hd.transfer hparser hcal hm le_rfl
  · exact fun _ => hshape.transfer rfl rfl rfl rfl
  · show main.frame.pointsNum + main.frame.perPointsNum = (main.udpPacketFrame ++ [packet]).length * _
    rw [hd.pointsNum, hshape.perPointsNum, List.length_append, List.length_singleton, Nat.succ_mul]
  · rfl
  · exact fun _ _ _ _ => ⟨rfl, rfl, fun _ _ => rfl, rfl⟩

lemma endFrame (hd : Data F c shape packets m main sequential writes u) (hparser : main.udpParser.parser.isSome)
    (hm : m ≤ packets.length) : Data F c shape packets m main.endFrame sequential writes u :=
  hd.rejected hparser rfl hm rfl rfl

section Decode

variable (hd : Data F c shape packets m main sequential writes u) (hparser : main.udpParser.parser.isSome)
  (hr : F.Received packet) (hm : m ≤ packets.length)
include hd hparser hr hm

lemma decode_rejected
    (hn : (main.decode env F.toParser packet).val.2.frame.packetNum = main.frame.packetNum) :
    Data F c shape packets m (main.decode env F.toParser packet).val.2 sequential writes u := by
  rw [RunState.decode_val] at hn ⊢
  exact hd.rejected hparser (UdpParser.decodePacket_calibration hparser) hm rfl
    (UdpParser.decodePacket_rejected hparser hr hn)

lemma decode_accepted (hnum : main.frame.packetNum = m) (hshape : F.shape packet = shape)
    (hn : (main.decode env F.toParser packet).val.2.frame.packetNum = main.frame.packetNum + 1) :
    Data F c shape (packets ++ [packet]) m (main.decode env F.toParser packet).val.2 sequential writes u := by
  rw [RunState.decode_val] at hn ⊢
  refine hd.stored hparser (UdpParser.decodePacket_calibration hparser) hm rfl hnum ?_ hshape
  rw [← hshape]
  exact UdpParser.decodePacket_accepted hparser hr hn

end Decode

lemma published (hd : Data F c shape packets m main sequential writes 0) (hm : main.udpPacketFrame.length = m) :
    ∀ i < main.frame.pointsNum, main.frame.points i = sequential i ∧
      writes i = if F.written c shape main.frame.pointData (i / shape.pointNum) i = true then 1 else 0 := by
  intro i hi
  rw [hd.pointsNum, hm, Nat.mul_comm] at hi
  have hpos : 0 < shape.pointNum := Nat.pos_of_mul_pos_right (Nat.zero_lt_of_lt hi)
  have hdiv := Nat.div_add_mod i shape.pointNum
  have hmod := Nat.mod_lt i hpos
  rw [Nat.mul_comm] at hdiv
  exact hd.done (i / shape.pointNum) (Nat.div_lt_of_lt_mul hi) (Multiset.notMem_zero _) i
    ⟨by omega, by omega⟩

end Data

namespace Pipeline

variable {s t : Pipeline σ Pt Fault n}

def pending (s : Pipeline σ Pt Fault n) : List UdpPacket :=
  match s.pc with
  | .push packet _ | .count packet _ => [packet]
  | .wait again | .zero again | .publish again => again.toList
  | _ => []

def pushed (s : Pipeline σ Pt Fault n) : ℕ :=
  match s.pc with
  | .count _ _ => s.main.packetIndex + 1
  | _ => s.main.packetIndex

def framePackets (s : Pipeline σ Pt Fault n) : List UdpPacket := s.main.udpPacketFrame ++ s.pending

def Again (env : Environment) (F : PointParser σ Pt Fault Cal) (main : RunState σ Pt Fault) (packet : UdpPacket) :
    Prop :=
  F.Received packet ∧ ∀ t : RunState σ Pt Fault, t.udpParser = main.udpParser →
    (t.decode env F.toParser packet).val.2.frame.packetNum = t.frame.packetNum + 1

def Control (env : Environment) (F : PointParser σ Pt Fault Cal) (s : Pipeline σ Pt Fault n) : Prop :=
  match s.pc with
  | .head => s.main.frame.packetNum = s.main.packetIndex
  | .push _ _ | .count _ _ => s.main.frame.packetNum = s.main.packetIndex + 1
  | .wait again | .zero again | .publish again => ∀ packet ∈ again, Again env F s.main packet
  | .reopen packet => s.main.frame.packetNum = s.main.packetIndex ∧ Again env F s.main packet
  | _ => True

def Resetting (s : Pipeline σ Pt Fault n) : Prop :=
  match s.pc with
  | .clearDecoded | .clearHandle _ | .update => True
  | _ => False

def OneShape (F : PointParser σ Pt Fault Cal) (p : Published Pt) (shape : Shape) : Prop :=
  ∀ packet ∈ p.packets ++ p.again.toList, F.shape packet = shape

def Faithful (F : PointParser σ Pt Fault Cal) (p : Published Pt) : Prop :=
  ∀ shape, OneShape F p shape → ∀ i < p.frame.pointsNum, p.frame.points i = p.sequential i ∧ p.writes i = 1

/-- `Faithful` where the parser may skip slots. -/
def Computed (F : PointParser σ Pt Fault Cal) (c : Cal) (p : Published Pt) : Prop :=
  ∀ shape, OneShape F p shape → ∀ i < p.frame.pointsNum, p.frame.points i = p.sequential i ∧
    p.writes i = if F.written c shape p.frame.pointData (i / shape.pointNum) i = true then 1 else 0

structure Scheduled (env : Environment) (F : PointParser σ Pt Fault Cal) (c : Cal) (sourceType : ℤ)
    (s : Pipeline σ Pt Fault n) : Prop where
  account : s.Account
  parser : s.main.udpParser.Fitted F c sourceType
  length : s.main.udpPacketFrame.length = s.main.packetIndex
  control : s.Control env F
  data : ¬s.Resetting → ∀ shape, (∀ packet ∈ s.framePackets, F.shape packet = shape) →
    Data F c shape s.framePackets s.pushed s.main s.sequential s.writes s.uncomputed
  dropped : s.dropped = []
  published : ∀ p ∈ s.published, Computed F c p

lemma Scheduled.pushed_le (h : s.Scheduled env F c sourceType) : s.pushed ≤ s.framePackets.length := by
  rw [pushed, framePackets, pending, List.length_append, h.length]
  split <;> simp_all

lemma uncomputed_of_outstanding (h : s.outstanding = 0) : s.uncomputed = 0 :=
  Multiset.card_eq_zero.mp (Nat.eq_zero_of_add_eq_zero_right h)

lemma Account.uncomputed_lt (h : s.Account) (hr : ¬s.Resetting) :
    s.uncomputed.Nodup ∧ ∀ k ∈ s.uncomputed, k < s.pushed := by
  have hzero (h0 : s.outstanding = 0) : s.uncomputed.Nodup ∧ ∀ k ∈ s.uncomputed, k < s.pushed := by
    simp [uncomputed_of_outstanding h0]
  rw [Account] at h
  split at h
  case h_5 => exact hzero h
  case h_6 => exact hzero (balanced_zero.mp h).2
  case h_7 => exact hzero (balanced_zero.mp h.2).2
  case h_8 hpc | h_9 hpc | h_10 hpc =>
    rw [Resetting, hpc] at hr
    exact absurd trivial hr
  all_goals
    rename_i hpc
    rw [pushed, hpc]
  case h_3 | h_4 => exact ⟨h.2.2.nodup, h.2.2.lt⟩
  all_goals exact ⟨h.2.nodup, h.2.lt⟩

lemma Worked.scheduled (hw : Worked F.toParser s t) (h : s.Scheduled env F c sourceType) :
    t.Scheduled env F c sourceType := by
  obtain ⟨hpc, hi, hl, hseq, hd, hp⟩ := hw.front_eq
  have hmain : ∃ points, t.main = { s.main with frame := { s.main.frame with points := points } } := by
    cases hw with
    | moved hf _ _ _ | added hf _ _ _ => exact ⟨s.main.frame.points, congrArg (fun x => x.1) hf⟩
    | computed k hf _ _ _ => exact ⟨_, congrArg (fun x => x.1) hf⟩
  obtain ⟨points, hmain⟩ := hmain
  have hpackets : t.framePackets = s.framePackets := by
    rw [framePackets, framePackets, hl, pending, pending, hpc]
  have hpushed : t.pushed = s.pushed := by
    rw [pushed, pushed, hpc, hi]
  refine ⟨hw.account h.account, ?_, ?_, ?_, fun hr shape hshape => ?_, hd.trans h.dropped, hp ▸ h.published⟩
  · rw [hmain]
    exact h.parser
  · rw [hl, hi]
    exact h.length
  · rw [Control, hpc, hmain]
    exact h.control
  · rw [Resetting, hpc] at hr
    rw [hpackets] at hshape ⊢
    have hdata := h.data hr shape hshape
    rw [hpushed, hseq]
    cases hw with
    | moved hf hu _ _ | added hf hu _ _ =>
      simp only [front, Prod.mk.injEq] at hf
      obtain ⟨hm, -, -, hw, -, -⟩ := hf
      rw [hm, hw, hu]
      exact hdata
    | computed k hf hu _ _ =>
      simp only [front, Prod.mk.injEq] at hf
      obtain ⟨hm, -, -, hw, -, -⟩ := hf
      obtain ⟨hn, hlt⟩ := h.account.uncomputed_lt hr
      rw [hu] at hdata hn hlt
      have hk := hlt k (Multiset.mem_cons_self k _)
      have hne : s.framePackets ≠ [] := List.ne_nil_of_length_pos (by have := h.pushed_le; omega)
      rw [hm, hw]
      exact hdata.compute hne h.parser.parser h.parser.calibrated hk hn

section Main

variable {fetch : Fetch}

lemma restart_scheduled {pc : RunPc} (h : s.Scheduled env F c sourceType) (hacc : (s.restart pc).Account)
    (hcontrol : (s.restart pc).Control env F) (hpc : pc = .head ∨ ∃ packet, pc = .reopen packet) :
    (s.restart pc).Scheduled env F c sourceType := by
  have hpackets : (s.restart pc).framePackets = [] := by
    rcases hpc with rfl | ⟨packet, rfl⟩ <;> rfl
  have hpushed : (s.restart pc).pushed = 0 := by
    rcases hpc with rfl | ⟨packet, rfl⟩ <;> rfl
  refine ⟨hacc, h.parser, rfl, hcontrol, fun _ shape _ => ?_, h.dropped, h.published⟩
  rw [hpackets, hpushed]
  exact Data.fresh rfl rfl

lemma decodePacket_scheduled (h : s.Scheduled env F c sourceType) (hpc : s.pc = .head) (hr : F.Received packet) :
    (s.decodePacket env F.toParser packet).Scheduled env F c sourceType := by
  have hs := h.account
  have hcontrol := h.control
  have hle := h.pushed_le
  have hdata := h.data
  rw [Account, hpc] at hs
  rw [Control, hpc] at hcontrol
  have hpackets : s.framePackets = s.main.udpPacketFrame := by
    rw [framePackets, pending, hpc, List.append_nil]
  have hpushed : s.pushed = s.main.packetIndex := by
    rw [pushed, hpc]
  rw [hpackets, hpushed] at hdata hle
  have hres : ¬s.Resetting := by
    rw [Resetting, hpc]
    exact id
  have hin : RunState.InStep sourceType s.main := ⟨h.parser.toReady, hcontrol, h.length, hs.1⟩
  obtain ⟨-, hindex, hlist, hcases⟩ := hin.decode env hr
  have hready : (s.main.decode env F.toParser packet).val.2.udpParser.Fitted F c sourceType := by
    rw [RunState.decode_val]
    exact h.parser.decodePacket env _ packet
  have hacc : (s.decodePacket env F.toParser packet).Account := decodePacket_account hpc hs.1 hs.2
  have hrej (shape : Shape) (hshape : ∀ q ∈ s.main.udpPacketFrame, F.shape q = shape)
      (hn : (s.main.decode env F.toParser packet).val.2.frame.packetNum = s.main.packetIndex) :
      Data F c shape s.main.udpPacketFrame s.main.packetIndex (s.main.decode env F.toParser packet).val.2
        s.sequential s.writes s.uncomputed :=
    (hdata hres shape hshape).decode_rejected h.parser.parser hr hle (hn.trans hcontrol.symm)
  have hstored (shape : Shape) (hshape : ∀ q ∈ s.main.udpPacketFrame ++ [packet], F.shape q = shape)
      (hn : (s.main.decode env F.toParser packet).val.2.frame.packetNum = s.main.packetIndex + 1) :
      Data F c shape (s.main.udpPacketFrame ++ [packet]) s.main.packetIndex
        (s.main.decode env F.toParser packet).val.2 s.sequential s.writes s.uncomputed :=
    (hdata hres shape fun q hq => hshape q (List.mem_append_left _ hq)).decode_accepted
      h.parser.parser hr hle hcontrol (hshape packet (List.mem_append_right _ List.mem_cons_self))
      (hn.trans (congrArg (· + 1) hcontrol.symm))
  rcases hcases with ⟨h0, hnum⟩ | ⟨h0, hnum, hagain⟩ | ⟨h0, hnum, hscan⟩
  case inl =>
    rw [decodePacket_of_ret_ne h0] at hacc ⊢
    have hf : framePackets { s with main := (s.main.decode env F.toParser packet).val.2 } =
        s.main.udpPacketFrame := by
      simp only [framePackets, pending, hpc, List.append_nil, hlist]
    have hm : pushed { s with main := (s.main.decode env F.toParser packet).val.2 } = s.main.packetIndex := by
      simp only [pushed, hpc, hindex]
    refine ⟨hacc, hready, ?_, ?_, fun _ shape hshape => ?_, h.dropped, h.published⟩
    · rw [hlist, hindex]
      exact h.length
    · simp only [Control, hpc]
      exact hnum.trans hindex.symm
    · rw [hf] at hshape ⊢
      rw [hm]
      exact hrej shape hshape hnum
  case inr.inl =>
    have hne : (s.main.decode env F.toParser packet).val.2.frame.packetNum ≠
        (s.main.decode env F.toParser packet).val.2.packetIndex := by
      rw [hnum, hindex]
      exact Nat.succ_ne_self _
    cases hscan : (s.main.decode env F.toParser packet).val.2.frame.scanComplete with
    | true =>
      rw [decodePacket_of_scanComplete h0 hscan, if_pos hne] at hacc ⊢
      refine ⟨hacc, hready, ?_, ?_, fun _ shape hshape => ?_, h.dropped, h.published⟩
      · exact (congrArg List.length hlist).trans (h.length.trans hindex.symm)
      · intro q hq
        obtain rfl := Option.mem_some.mp hq
        exact ⟨hr, hagain⟩
      · apply (hstored shape hshape hnum).endFrame hready.parser
        rw [List.length_append]
        exact hle.trans (Nat.le_add_right _ _)
    | false =>
      rw [decodePacket_of_stored h0 hscan hne] at hacc ⊢
      refine ⟨hacc, hready, ?_, ?_, fun _ shape hshape => ?_, h.dropped, h.published⟩
      · exact (congrArg List.length hlist).trans (h.length.trans hindex.symm)
      · exact hnum.trans (congrArg (· + 1) hindex.symm)
      · exact hstored shape hshape hnum
  case inr.inr =>
    have hnot : ¬(s.main.decode env F.toParser packet).val.2.frame.packetNum ≠
        (s.main.decode env F.toParser packet).val.2.packetIndex := not_not.mpr (hnum.trans hindex.symm)
    rw [decodePacket_of_scanComplete h0 hscan, if_neg hnot] at hacc ⊢
    refine ⟨hacc, hready, ?_, ?_, fun _ shape hshape => ?_, h.dropped, h.published⟩
    · exact (congrArg List.length hlist).trans (h.length.trans hindex.symm)
    · intro q hq
      cases hq
    · change ∀ q ∈ s.main.udpPacketFrame ++ [], F.shape q = shape at hshape
      change Data F c shape (s.main.udpPacketFrame ++ []) _ _ _ _ _
      rw [List.append_nil] at hshape ⊢
      exact (hrej shape hshape hnum).endFrame hready.parser hle

lemma push_scheduled {first : Bool} (h : s.Scheduled env F c sourceType) (hpc : s.pc = .push packet first)
    (hacc : Account { s with
      decodedPacketsBuffer := s.decodedPacketsBuffer ++ [s.main.packetIndex]
      sequential := (s.main.udpParser.computeXYZI F.toParser { s.main.frame with points := s.sequential }
        s.main.packetIndex).val
      pc := .count packet first }) :
    Scheduled env F c sourceType { s with
      decodedPacketsBuffer := s.decodedPacketsBuffer ++ [s.main.packetIndex]
      sequential := (s.main.udpParser.computeXYZI F.toParser { s.main.frame with points := s.sequential }
        s.main.packetIndex).val
      pc := .count packet first } := by
  have hcontrol := h.control
  have hdata := h.data
  rw [Control, hpc] at hcontrol
  rw [Resetting, framePackets, pending, pushed, hpc] at hdata
  refine ⟨hacc, h.parser, h.length, hcontrol, fun _ shape hshape => ?_, h.dropped, h.published⟩
  rw [push_uncomputed]
  exact (hdata id shape hshape).push (List.append_ne_nil_of_right_ne_nil _ (List.cons_ne_nil _ _)) h.parser.parser

lemma count_scheduled {first : Bool} {pc : RunPc} (h : s.Scheduled env F c sourceType)
    (hpc : s.pc = .count packet first) (hacc : Account { s with main := s.main.count packet, pc := pc })
    (hto : pc = .head ∨ pc = .clearDecoded) :
    Scheduled env F c sourceType { s with main := s.main.count packet, pc := pc } := by
  have hcontrol := h.control
  have hdata := h.data
  have hle := h.pushed_le
  rw [Control, hpc] at hcontrol
  rw [Resetting, framePackets, pending, pushed, hpc] at hdata
  rw [framePackets, pending, pushed, hpc] at hle
  have hlength : (s.main.count packet).udpPacketFrame.length = (s.main.count packet).packetIndex := by
    show (s.main.udpPacketFrame ++ [packet]).length = s.main.packetIndex + 1
    rw [List.length_append, h.length, List.length_singleton]
  rcases hto with rfl | rfl
  · refine ⟨hacc, h.parser, hlength, hcontrol, fun _ shape hshape => ?_, h.dropped, h.published⟩
    change ∀ q ∈ s.main.udpPacketFrame ++ [packet] ++ [], F.shape q = shape at hshape
    change Data F c shape (s.main.udpPacketFrame ++ [packet] ++ []) _ _ _ _ _
    rw [List.append_nil] at hshape ⊢
    exact (hdata id shape hshape).count h.parser.parser
      (List.append_ne_nil_of_right_ne_nil _ (List.cons_ne_nil _ _)) hle
  · exact ⟨hacc, h.parser, hlength, trivial, fun hr => absurd trivial hr, h.dropped, h.published⟩

lemma publishFrame_scheduled {again : Option UdpPacket} (h : s.Scheduled env F c sourceType)
    (hpc : s.pc = .publish again) : (s.publishFrame again).Scheduled env F c sourceType := by
  have hs := h.account
  have hdata := h.data
  rw [Account, hpc] at hs
  rw [Resetting, framePackets, pending, pushed, hpc,
    uncomputed_of_outstanding (balanced_zero.mp hs).2] at hdata
  rw [publishFrame]
  split_ifs with hmin
  · refine ⟨?_, h.parser, h.length, h.control, h.data, h.dropped, fun p hp => ?_⟩
    · rw [Account]
      simp only [hpc]
      exact hs.congr rfl rfl rfl
    · rcases List.mem_append.mp hp with hp | hp
      · exact h.published p hp
      · obtain rfl := List.mem_singleton.mp hp
        exact fun shape hshape => (hdata id shape hshape).published h.length
  · exact h

lemma reopen_scheduled (h : s.Scheduled env F c sourceType) (hpc : s.pc = .reopen packet)
    (hacc : Account { s with main := (s.main.decode env F.toParser packet).val.2, pc := .push packet true }) :
    Scheduled env F c sourceType
      { s with main := (s.main.decode env F.toParser packet).val.2, pc := .push packet true } := by
  have hcontrol := h.control
  have hdata := h.data
  have hle := h.pushed_le
  rw [Control, hpc] at hcontrol
  rw [Resetting, framePackets, pending, pushed, hpc] at hdata
  rw [framePackets, pending, pushed, hpc, List.append_nil] at hle
  obtain ⟨hnum, hr, hagain⟩ := hcontrol
  have hn := hagain s.main rfl
  refine ⟨hacc, ?_, h.length, ?_, fun _ shape hshape => ?_, h.dropped, h.published⟩
  · rw [RunState.decode_val]
    exact h.parser.decodePacket env _ packet
  · exact hn.trans (congrArg (· + 1) hnum)
  · change ∀ q ∈ s.main.udpPacketFrame ++ [packet], F.shape q = shape at hshape
    simp only [List.append_nil] at hdata
    exact (hdata id shape fun q hq => hshape q (List.mem_append_left _ hq)).decode_accepted h.parser.parser hr hle
      hnum (hshape packet (List.mem_append_right _ List.mem_cons_self)) hn

lemma resetting_scheduled {queue : List ℕ} {handles : Fin n → Handle} {pc : RunPc}
    (h : s.Scheduled env F c sourceType)
    (hacc : Account { s with decodedPacketsBuffer := queue, handles := handles, pc := pc })
    (hpc : (∃ i, pc = .clearHandle i) ∨ pc = .update) :
    Scheduled env F c sourceType { s with decodedPacketsBuffer := queue, handles := handles, pc := pc } := by
  have hto : Control env F { s with decodedPacketsBuffer := queue, handles := handles, pc := pc } ∧
      Resetting { s with decodedPacketsBuffer := queue, handles := handles, pc := pc } := by
    rcases hpc with ⟨i, rfl⟩ | rfl
    · exact ⟨trivial, trivial⟩
    · exact ⟨trivial, trivial⟩
  exact ⟨hacc, h.parser, h.length, hto.1, fun hr => absurd hto.2 hr, h.dropped, h.published⟩

lemma mainStep_scheduled (h : s.Scheduled env F c sourceType) (hc : s.Clean (.main fetch))
    (hr : fetch.Received F.toFramingParser) (ht : s.mainStep env F.toParser device fetch = some t) :
    t.Scheduled env F c sourceType := by
  have hacc := mainStep_account h.account hc ht
  have hcontrol := h.control
  have hdata := h.data
  rw [Control] at hcontrol
  rw [Resetting, framePackets, pending, pushed] at hdata
  rw [mainStep] at ht
  cases hpc : s.pc with
  | head =>
    simp only [hpc] at ht
    rcases RunState.classify_cases device s.main.packetIndex fetch with ha | ⟨packet, hp, ha | ha⟩
    · simp only [ha, Option.some.injEq] at ht
      rwa [← ht]
    · simp only [ha, Option.some.injEq] at ht
      subst ht
      rw [RunState.parseFault_val] at hacc ⊢
      simp only [hpc] at hcontrol hdata
      have hle := h.pushed_le
      rw [framePackets, pending, pushed, hpc] at hle
      refine ⟨hacc, h.parser, h.length, hcontrol, fun _ shape hshape => ?_, h.dropped, h.published⟩
      exact (hdata id shape hshape).rejected h.parser.parser rfl hle rfl rfl
    · simp only [ha, Option.some.injEq] at ht
      rw [← ht]
      exact decodePacket_scheduled h hpc (hr packet hp)
  | push packet first =>
    simp only [hpc] at ht
    split_ifs at ht
    obtain rfl := Option.some.inj ht
    exact push_scheduled h hpc hacc
  | count packet first =>
    simp only [hpc, Option.some.injEq] at ht
    split_ifs at ht
    · subst ht
      exact count_scheduled h hpc hacc (Or.inl rfl)
    · subst ht
      rw [appended] at hacc ⊢
      apply count_scheduled h hpc hacc
      split_ifs
      · exact Or.inr rfl
      · exact Or.inl rfl
  | wait again =>
    simp only [hpc, Option.some.injEq] at ht hcontrol hdata
    split_ifs at ht
    · subst ht
      exact ⟨hacc, h.parser, h.length, hcontrol, hdata, h.dropped, h.published⟩
    · rwa [← ht]
  | zero again =>
    simp only [hpc, Option.some.injEq] at ht hcontrol hdata
    subst ht
    exact ⟨hacc, h.parser, h.length, hcontrol, hdata, h.dropped, h.published⟩
  | publish again =>
    simp only [hpc, Option.some.injEq] at ht hcontrol
    subst ht
    have hp := publishFrame_scheduled h hpc
    cases again with
    | none => exact restart_scheduled hp hacc rfl (Or.inl rfl)
    | some packet =>
      have hagain := hcontrol packet rfl
      have hmain : (s.publishFrame (some packet)).main = s.main := by
        rw [publishFrame]
        split_ifs <;> rfl
      refine restart_scheduled hp hacc ⟨rfl, hagain.1, fun t ht => hagain.2 t ?_⟩ (Or.inr ⟨packet, rfl⟩)
      rw [← hmain]
      exact ht
  | reopen packet =>
    simp only [hpc, Option.some.injEq] at ht
    subst ht
    exact reopen_scheduled h hpc hacc
  | clearDecoded =>
    simp only [hpc, Option.some.injEq] at ht
    subst ht
    refine resetting_scheduled h hacc ?_
    split_ifs
    · exact Or.inl ⟨0, rfl⟩
    · exact Or.inr rfl
  | clearHandle i =>
    simp only [hpc, Option.some.injEq] at ht
    subst ht
    refine resetting_scheduled h hacc ?_
    split_ifs
    · exact Or.inl ⟨i + 1, rfl⟩
    · exact Or.inr rfl
  | update =>
    simp only [hpc, Option.some.injEq] at ht
    subst ht
    exact restart_scheduled h hacc rfl (Or.inl rfl)

end Main

section Runs

def Accords (F : PointParser σ Pt Fault Cal) (s : Pipeline σ Pt Fault n) (a : Action n) : Prop :=
  s.Clean a ∧ ∀ fetch, a = .main fetch → fetch.Received F.toFramingParser

lemma step_scheduled {a : Action n} (hc : Accords F s a) (h : s.Scheduled env F c sourceType)
    (ht : s.step env F.toParser device a = some t) : t.Scheduled env F c sourceType := by
  cases a with
  | main fetch => exact mainStep_scheduled h hc.1 (hc.2 fetch rfl) ht
  | parser => exact (parserStep_worked ht h.account.card_le).scheduled h
  | handle i => exact (handleStep_worked ht).scheduled h

lemma start_scheduled {udpParser : UdpParser σ} {parser : σ} {frame : LidarDecodedFrame Pt} {info : Fault}
    (hparser : udpParser.parser = some parser) (hframe : frame.pointsNum = 0) :
    (start (RunState.start udpParser frame info) 0 : Pipeline σ Pt Fault n).Scheduled env F (F.calibration parser)
      udpParser.sourceType := by
  have hfitted : udpParser.Fitted F (F.calibration parser) udpParser.sourceType :=
    ⟨⟨by rw [hparser]; rfl, rfl⟩, by rw [UdpParser.calibration, hparser, Option.map_some]⟩
  exact ⟨start_account rfl, hfitted, rfl, rfl, fun _ shape _ => Data.fresh hframe rfl, rfl,
    fun _ hp => absurd hp List.not_mem_nil⟩

lemma reaches_scheduled {udpParser : UdpParser σ} {parser : σ} {frame : LidarDecodedFrame Pt} {info : Fault}
    (hparser : udpParser.parser = some parser) (hframe : frame.pointsNum = 0) (hs : Reaches
      (step env F.toParser device) (Accords F) (start (RunState.start udpParser frame info) 0) s) :
    s.Scheduled env F (F.calibration parser) udpParser.sourceType :=
  reaches_invariant (fun _ _ _ hc hs h => step_scheduled hc hs h) hs (start_scheduled hparser hframe)

/-- In every run without leftovers no index is dropped, and a published frame of one shape holds the
points of the sequential run, each slot written once unless the parser skips it. -/
theorem published_faithful [Point Pt] (env : Environment) (faultMessage43 faultMessage47 : UdpPacket → Fault → Fault)
    (type : ParserType) (device : DeviceFilter) (udpParser : UdpParser (ParserState type)) (parser : ParserState type)
    (hparser : udpParser.parser = some parser) (frame : LidarDecodedFrame Pt) (hframe : frame.pointsNum = 0)
    (info : Fault) (s : Pipeline (ParserState type) Pt Fault n) :
    let F := parserPoints env Pt faultMessage43 faultMessage47 type
    Reaches (step env F.toParser device) (Accords F) (start (RunState.start udpParser frame info) 0) s →
      s.dropped = [] ∧ ∀ p ∈ s.published, ∀ shape, OneShape F p shape →
        (∀ i < p.frame.pointsNum, p.frame.points i = p.sequential i) ∧
        ((∀ i < p.frame.pointsNum, p.writes i = 1) ↔ ∀ i < p.frame.pointsNum,
          F.written (F.calibration parser) shape p.frame.pointData (i / shape.pointNum) i = true) := by
  intro F hs
  have h := reaches_scheduled hparser hframe hs
  refine ⟨h.dropped, fun p hp shape hshape => ⟨fun i hi => (h.published p hp shape hshape i hi).1, ?_⟩⟩
  refine forall₂_congr fun i hi => ?_
  rw [(h.published p hp shape hshape i hi).2]
  by_cases hw : F.written (F.calibration parser) shape p.frame.pointData (i / shape.pointNum) i = true
  · rw [if_pos hw]
    exact iff_of_true rfl hw
  · rw [if_neg hw]
    exact iff_of_false Nat.zero_ne_one hw

end Runs

section Leftover

variable {again : UdpPacket} {state : ℚ × ℤ × ℤ} {queue : List ℕ} {counter : ℕ}
  {s : Pipeline GeneralParser LidarPointXYZICRT Unit 0}

lemma Standing.publish (h : Standing (.wait (some again)) state packets queue packets.length s)
    (hmin : kMinPointsOfOneFrame < packets.length * 360) : ∃ t p, Reaches stepXt Unreset s t ∧ t.published = [p] ∧
      (p.packets = packets ∧ p.again = some again) ∧ p.frame.pointsNum = packets.length * 360 ∧
        p.writes = s.writes := by
  let zeroing := { s with pc := .zero (some again) }
  let publishing := { zeroing with computePacketNum := 0, pc := .publish (some again) }
  let p : Published LidarPointXYZICRT := ⟨s.main.frame, s.main.udpPacketFrame, some again, s.sequential, s.writes⟩
  have heq : s.computePacketNum = s.main.packetIndex := h.computePacketNum.trans h.packetIndex.symm
  have hwait : stepXt s (fetchXt 0) = some zeroing := by
    simp only [stepXt, fetchXt, step, mainStep, h.pc, if_pos heq]
    rfl
  have hzero : stepXt zeroing (fetchXt 0) = some publishing := rfl
  have hpublish : stepXt publishing (fetchXt 0) =
      some ((publishing.publishFrame (some again)).restart (.reopen again)) := rfl
  have hunreset := h.unreset RunPc.noConfusion 0
  have hzeroing : zeroing.Unreset (fetchXt 0) := RunPc.noConfusion
  have hpublishing : publishing.Unreset (fetchXt 0) := RunPc.noConfusion
  refine ⟨_, p, ((Relation.ReflTransGen.single ⟨_, hunreset, hwait⟩).tail ⟨_, hzeroing, hzero⟩).tail
    ⟨_, hpublishing, hpublish⟩, ?_, ⟨h.udpPacketFrame, rfl⟩, h.pointsNum, rfl⟩
  have hnum : kMinPointsOfOneFrame < publishing.main.frame.pointsNum := by
    show _ < s.main.frame.pointsNum
    rwa [h.pointsNum]
  show (publishing.publishFrame (some again)).published = [p]
  rw [publishFrame, if_pos hnum]
  exact congrArg (· ++ [p]) h.published

lemma oneShape_xt {p : Published LidarPointXYZICRT} (hpackets : p.packets = [xtPacket 50, xtPacket 60, xtPacket 70])
    (hagain : p.again = some (xtPacket 150)) :
    OneShape (udp61Points default LidarPointXYZICRT Unit) p ⟨6, 60, 4 / 1000, 0⟩ := by
  rw [OneShape, hpackets, hagain]
  decide +kernel

theorem published_faithful_xt : ∃ t p,
    Reaches stepXt (Accords (udp61Points default LidarPointXYZICRT Unit)) (powered 0) t ∧ t.published = [p] ∧
    (p.packets = [xtPacket 50, xtPacket 60, xtPacket 70] ∧ p.frame.pointsNum = 1080) ∧ t.dropped = [] ∧
    ∀ i < 1080, p.frame.points i = p.sequential i ∧ p.writes i = 1 := by
  obtain ⟨s, hr, state, hs⟩ := exists_waiting
  obtain ⟨s₁, hr₁, hs₁⟩ := hs.work (by decide)
  obtain ⟨s₂, hr₂, hs₂⟩ := hs₁.work (by decide)
  obtain ⟨t, p, ht, hp, ⟨hpackets, hagain⟩, hnum, -⟩ := Standing.publish hs₂ (by decide)
  have hreaches : Reaches stepXt (Accords (udp61Points default LidarPointXYZICRT Unit)) (powered 0) t :=
    reaches_imp (fun _ _ ha => ⟨ha.clean, fun _ _ _ _ => trivial⟩)
      (((hr.trans (reaches_of_work hr₁)).trans (reaches_of_work hr₂)).trans ht)
  obtain ⟨hdropped, hall⟩ := published_faithful default (fun _ info => info) (fun _ info => info) .udp61 ⟨0, 0, 0⟩ _ _
    rfl default rfl () t hreaches
  obtain ⟨hsame, honce⟩ := hall p (by rw [hp]; exact List.mem_cons_self) _ (oneShape_xt hpackets hagain)
  have hnum' : p.frame.pointsNum = 1080 := hnum
  rw [hnum'] at hsame honce
  exact ⟨t, p, hreaches, hp, ⟨hpackets, hnum'⟩, hdropped, fun i hi => ⟨hsame i hi, honce.mpr (fun _ _ => rfl) i hi⟩⟩

/-- The frame after such a reset is published with no point of it computed. -/
theorem published_uncomputed : ∃ s, Reaches stepXt (fun _ _ => True) (powered 0) s ∧
    ∃ p ∈ s.published, ¬Faithful (udp61Points default LidarPointXYZICRT Unit) p := by
  obtain ⟨s, hr, hs, hw⟩ := exists_leftover
  obtain ⟨s₁, hr₁, hs₁, hw₁⟩ := hs.store 50 (by decide +kernel) (by decide +kernel) (by decide +kernel) (by decide)
  rw [if_neg (by decide)] at hs₁
  obtain ⟨s₂, hr₂, hs₂, hw₂⟩ := hs₁.store 60 (by decide +kernel) (by decide +kernel) (by decide +kernel) (by decide)
  rw [if_neg (by decide)] at hs₂
  obtain ⟨s₃, hr₃, hs₃, hw₃⟩ := hs₂.store 70 (by decide +kernel) (by decide +kernel) (by decide +kernel) (by decide)
  rw [if_neg (by decide)] at hs₃
  obtain ⟨s₄, hr₄, hs₄, hw₄⟩ := hs₃.split 150 (by decide +kernel) (by decide +kernel) (by decide +kernel)
  obtain ⟨t, p, hr₅, hp, ⟨hpackets, hagain⟩, hnum, hwrites⟩ := Standing.publish hs₄ (by decide)
  have hstored : Reaches stepXt (fun _ _ => True) s s₃ :=
    reaches_imp (fun _ _ _ => trivial) ((hr₁.trans hr₂).trans hr₃)
  have hpublished : Reaches stepXt (fun _ _ => True) s₄ t := reaches_imp (fun _ _ _ => trivial) hr₅
  refine ⟨t, ((hr.trans hstored).tail ⟨fetchXt 150, trivial, hr₄⟩).trans hpublished, p, ?_, fun h => ?_⟩
  · rw [hp]
    exact List.mem_cons_self
  · have hnone : p.writes = fun _ => 0 := hwrites.trans (hw₄.trans (hw₃.trans (hw₂.trans (hw₁.trans hw))))
    have hone := (h _ (oneShape_xt hpackets hagain) 0 (by rw [hnum]; decide)).2
    exact Nat.zero_ne_one ((congrFun hnone 0).symm.trans hone)

end Leftover

end Pipeline

end HesaiSdk.Driver
