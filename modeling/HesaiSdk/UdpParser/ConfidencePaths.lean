import HesaiSdk.UdpParser.Redecoding

/-! The two copies of the decode body of the QT128, with the confidence level and without. -/

namespace HesaiSdk.Parsing

open Library Library.BlockWalk Library.ByteLayout Lidar UdpProtocol UdpProtocol.V32

section Body

def blockOffset (l : BodyLayout) (i : ℕ) : ℕ := l.offset + (l.headSize + l.unitSize * l.laserNum) * i

def unitOffset (l : BodyLayout) (i j : ℕ) : ℕ := blockOffset l i + l.headSize + l.unitSize * j

/-- Two bodies hold the same values, each where its layout puts them. -/
structure SameBody (env : Environment) (a b : UdpPacket) (l l' : BodyLayout) : Prop where
  laserNum : l.laserNum = l'.laserNum
  blockNum : l.blockNum = l'.blockNum
  azimuth : ∀ i < l.blockNum, (readU16 env a (blockOffset l i + l.azimuthAt)).val =
    (readU16 env b (blockOffset l' i + l'.azimuthAt)).val
  distance : ∀ i < l.blockNum, ∀ j < l.laserNum,
    (readU16 env a (unitOffset l i j)).val = (readU16 env b (unitOffset l' i j)).val
  reflectivity : ∀ i < l.blockNum, ∀ j < l.laserNum,
    (readU8 env a (unitOffset l i j + 2)).val = (readU8 env b (unitOffset l' i j + 2)).val

def hideConfidence (slot : PointDecodeData) : PointDecodeData := { slot with confidence := 0 }

variable {env : Environment} {a b : UdpPacket} {l l' : BodyLayout} {fireTimes : FireTimes} {rotationFlag : ℤ}
  {store store' : ℕ → PointDecodeData → Logged DecodeEvent PointDecodeData} {packetNum : ℕ}
  {pointData : ℕ → PointDecodeData}

lemma bodyAzimuth_same (h : SameBody env a b l l') : bodyAzimuth env a l = bodyAzimuth env b l' := by
  have hlast := h.azimuth
  rw [bodyAzimuth, bodyAzimuth, ← h.blockNum]
  cases hblocks : l.blockNum with
  | zero => rfl
  | succ n => exact hlast n (by omega)

lemma unitAt_same (h : SameBody env a b l l')
    (hstore : ∀ o slot, hideConfidence (store o slot).val = hideConfidence slot)
    (hstore' : ∀ o slot, hideConfidence (store' o slot).val = hideConfidence slot) {i j : ℕ} (hi : i < l.blockNum)
    (hj : j < l.laserNum) (old : PointDecodeData) :
    hideConfidence ((mechanicalReader env a l fireTimes rotationFlag store).unitAt l.laserNum l.offset i j old).val =
      hideConfidence
        ((mechanicalReader env b l' fireTimes rotationFlag store').unitAt l.laserNum l'.offset i j old).val := by
  have hazimuth := h.azimuth i hi
  have hdistance := h.distance i hi j hj
  have hreflectivity := h.reflectivity i hi j hj
  simp only [blockOffset, unitOffset, ← h.laserNum] at hazimuth hdistance hreflectivity
  simp only [BlockReader.unitAt, BlockReader.headAt, BlockReader.blockOffset, mechanicalReader, val_bind, val_pure,
    hstore, hstore', hazimuth, hdistance, hreflectivity]

lemma mechanicalWalk_same (h : SameBody env a b l l')
    (hstore : ∀ o slot, hideConfidence (store o slot).val = hideConfidence slot)
    (hstore' : ∀ o slot, hideConfidence (store' o slot).val = hideConfidence slot) (k : ℕ) :
    hideConfidence ((mechanicalWalk env a l fireTimes rotationFlag store packetNum pointData).val.1.slots k) =
      hideConfidence
        ((mechanicalWalk env b l' fireTimes rotationFlag store' packetNum pointData).val.1.slots k) := by
  rw [mechanicalWalk, mechanicalWalk, BlockReader.walk_val, BlockReader.walk_val]
  simp only [BlockReader.filled, ← h.laserNum, ← h.blockNum]
  split_ifs with hk
  · have hlt : k - packetNum * l.blockNum * l.laserNum < l.laserNum * l.blockNum := by omega
    have hlaser : 0 < l.laserNum := Nat.pos_of_ne_zero fun h0 => by simp [h0] at hlt
    exact unitAt_same h hstore hstore' (Nat.div_lt_of_lt_mul hlt) (Nat.mod_lt _ hlaser) (pointData k)
  · rfl

end Body

namespace GeneralParser

section Counters

variable (env : Environment)

/-- `CalPktLoss` has nothing to change: the sequence number came before and no log is due, or it is the 0 that
starts an empty message at the same reading of the clock. -/
def LossStands (n : UInt32) (p : GeneralParser) : Prop :=
  p.enablePacketLossTool = false ∨
    if p.seqnumLossMessage.startSeqnum = 0
    then n = 0 ∧ p.seqnumLossMessage = { startTime := p.getMicroTickCount env }
    else p.seqnumLossMessage.lastSeqnum = n ∧ p.seqnumLossMessage.isPacketLoss = false ∧
      (p.seqnumLossMessage.lossCount = 0 ∨
        p.getMicroTickCount env - p.seqnumLossMessage.startTime < 1000000)

def lossReadings (p : GeneralParser) : ℕ :=
  if p.enablePacketLossTool = true ∧ (p.seqnumLossMessage.startSeqnum = 0 ∨ p.seqnumLossMessage.lossCount ≠ 0)
  then 1 else 0

/-- `CalPktTimeLoss` has nothing to change: it is off, or the message is already the one that it starts. -/
def TimeStands (t : UInt64) (p : GeneralParser) : Prop :=
  p.enablePacketTimelossTool = false ∨
    p.packetTimelossToolContinue = false ∧ p.timeLossMessage.totalTimelossCount ≠ 0 ∨
    if p.timeLossMessage.startTimestamp = 0
    then t = 0 ∧ p.timeLossMessage =
      { timelossStartTime := p.getMicroTickCount env
        lastTotalPackageCount := p.timeLossMessage.lastTotalPackageCount }
    else p.seqnumLossMessage.isPacketLoss = true ∧ p.timeLossMessage = { p.timeLossMessage with
      timelossCount := 0
      timelossStartTime := p.getMicroTickCount env
      startTimestamp := t
      lastTimestamp := t
      lastTotalPackageCount := p.totalPacketCount }

def timeReadings (p : GeneralParser) : ℕ :=
  if p.enablePacketTimelossTool = true ∧
    (p.packetTimelossToolContinue = true ∨ p.timeLossMessage.totalTimelossCount = 0) then 1 else 0

variable {env} {p : GeneralParser} {n : UInt32} {t : UInt64}

lemma calPktLoss_again (h : p.enablePacketLossTool = true) (hlast : p.seqnumLossMessage.lastSeqnum = n) :
    p.calPktLoss env n =
      if p.seqnumLossMessage.startSeqnum = 0 then { p with
        seqnumLossMessage :=
          { startSeqnum := n, lastSeqnum := n, startTime := p.getMicroTickCount env, totalStartSeqnum := n }
        ticks := p.ticks + 1 }
      else if p.seqnumLossMessage.lossCount = 0 then { p with
        seqnumLossMessage := { p.seqnumLossMessage with isPacketLoss := false } }
      else if p.getMicroTickCount env - p.seqnumLossMessage.startTime < 1000000 then { p with
        seqnumLossMessage := { p.seqnumLossMessage with isPacketLoss := false }
        ticks := p.ticks + 1 }
      else { p with
        seqnumLossMessage := { p.seqnumLossMessage with
          isPacketLoss := false
          lossCount := 0
          startTime := p.tick.getMicroTickCount env
          startSeqnum := n }
        ticks := p.ticks + 2 } := by
  have hn : ¬(n < n ∧ n ≠ 0) := fun hlt => UInt32.lt_irrefl n hlt.1
  have hgap : ¬1 < n - n := by
    rw [UInt32.sub_self]
    decide
  obtain rfl := hlast
  rw [calPktLoss, if_neg (by simp [h])]
  dsimp only
  rw [if_neg hn]
  by_cases hstart : p.seqnumLossMessage.startSeqnum = 0
  · rw [if_pos hstart, if_pos hstart]
    rfl
  rw [if_neg hstart, if_neg hstart, if_neg hgap]
  by_cases hcount : p.seqnumLossMessage.lossCount = 0
  · rw [if_pos hcount, if_neg (not_not.mpr hcount)]
  rw [if_neg hcount, if_pos hcount]
  by_cases hwindow : p.getMicroTickCount env - p.seqnumLossMessage.startTime < 1000000
  · rw [if_pos hwindow]
    split_ifs with hdue
    · exact absurd hdue (UInt32.not_le.mpr hwindow)
    · rfl
  · rw [if_neg hwindow]
    split_ifs with hdue
    · rfl
    · exact absurd (UInt32.not_lt.mp hwindow) hdue

lemma calPktLoss_of_stands (h : p.LossStands env n) :
    p.calPktLoss env n = { p with ticks := p.ticks + p.lossReadings } := by
  rcases Bool.eq_false_or_eq_true p.enablePacketLossTool with henable | henable
  swap
  · rw [calPktLoss_disabled env henable, lossReadings, if_neg (by simp [henable])]
    rfl
  have hstands := h.resolve_left (by simp [henable])
  split_ifs at hstands with hstart
  · obtain ⟨rfl, hmessage⟩ := hstands
    have hlast : p.seqnumLossMessage.lastSeqnum = 0 := by rw [hmessage]
    rw [calPktLoss_again henable hlast, if_pos hstart, lossReadings, if_pos ⟨henable, Or.inl hstart⟩]
    exact congrArg (fun message => { p with seqnumLossMessage := message, ticks := p.ticks + 1 }) hmessage.symm
  · obtain ⟨hlast, hloss, hwindow⟩ := hstands
    have hmessage : { p.seqnumLossMessage with isPacketLoss := false } = p.seqnumLossMessage := by rw [← hloss]
    rw [calPktLoss_again henable hlast, if_neg hstart, hmessage, lossReadings]
    by_cases hcount : p.seqnumLossMessage.lossCount = 0
    · rw [if_pos hcount, if_neg fun hread => hread.2.elim hstart fun hne => hne hcount]
      rfl
    · rw [if_neg hcount, if_pos (hwindow.resolve_left hcount), if_pos ⟨henable, Or.inr hcount⟩]

lemma calPktLoss_lossCounts_iff : (p.calPktLoss env n).lossCounts = p.lossCounts ↔ p.LossStands env n := by
  constructor
  swap
  · intro h
    rw [calPktLoss_of_stands h]
    rfl
  intro h
  rcases Bool.eq_false_or_eq_true p.enablePacketLossTool with henable | henable
  swap
  · exact Or.inl henable
  have hlast : p.seqnumLossMessage.lastSeqnum = n := by
    rw [← (Prod.mk.inj h).2]
    exact calPktLoss_lastSeqnum env henable
  rw [calPktLoss_again henable hlast] at h
  refine Or.inr ?_
  by_cases hstart : p.seqnumLossMessage.startSeqnum = 0
  · rw [if_pos hstart] at h ⊢
    have hmessage := (Prod.mk.inj h).2
    obtain rfl : n = 0 := (congrArg PacketSeqnumLossMessage.startSeqnum hmessage).trans hstart
    exact ⟨rfl, hmessage.symm⟩
  · rw [if_neg hstart] at h ⊢
    refine ⟨hlast, ?_, ?_⟩
    · have hloss := congrArg PacketSeqnumLossMessage.isPacketLoss (Prod.mk.inj h).2
      split_ifs at hloss <;> exact hloss.symm
    · by_contra hdue
      obtain ⟨hcount, hwindow⟩ := not_or.mp hdue
      rw [if_neg hcount, if_neg hwindow] at h
      exact hcount (congrArg PacketSeqnumLossMessage.lossCount (Prod.mk.inj h).2).symm

lemma timeReadings_of_stop (h : p.enablePacketTimelossTool = false ∨
    p.packetTimelossToolContinue = false ∧ p.timeLossMessage.totalTimelossCount ≠ 0) : p.timeReadings = 0 := by
  refine if_neg ?_
  rintro ⟨henable, hcontinue⟩
  obtain hoff | ⟨hstop, htotal⟩ := h
  · exact absurd (hoff.symm.trans henable) (by decide)
  · rcases hcontinue with hgo | hzero
    · exact absurd (hstop.symm.trans hgo) (by decide)
    · exact htotal hzero

lemma calPktTimeLoss_of_stop (h : p.enablePacketTimelossTool = false ∨
    p.packetTimelossToolContinue = false ∧ p.timeLossMessage.totalTimelossCount ≠ 0) :
    p.calPktTimeLoss env t = p := by
  rw [calPktTimeLoss]
  obtain hoff | hstop := h
  · rw [if_pos hoff]
  · rw [if_pos hstop, ite_self]

lemma timeReadings_of_go (henable : p.enablePacketTimelossTool = true)
    (hgo : ¬(p.packetTimelossToolContinue = false ∧ p.timeLossMessage.totalTimelossCount ≠ 0)) :
    p.timeReadings = 1 := by
  refine if_pos ⟨henable, ?_⟩
  rcases Bool.eq_false_or_eq_true p.packetTimelossToolContinue with hcontinue | hcontinue
  · exact Or.inl hcontinue
  · exact Or.inr (not_not.mp fun hzero => hgo ⟨hcontinue, hzero⟩)

lemma calPktTimeLoss_of_stands (h : p.TimeStands env t) :
    p.calPktTimeLoss env t = { p with ticks := p.ticks + p.timeReadings } := by
  by_cases hstop : p.enablePacketTimelossTool = false ∨
      p.packetTimelossToolContinue = false ∧ p.timeLossMessage.totalTimelossCount ≠ 0
  · rw [calPktTimeLoss_of_stop hstop, timeReadings_of_stop hstop]
    rfl
  obtain ⟨henable, hgo⟩ := not_or.mp hstop
  have hstands := (h.resolve_left henable).resolve_left hgo
  rw [timeReadings_of_go (Bool.not_eq_false _ |>.mp henable) hgo, calPktTimeLoss, if_neg henable, if_neg hgo]
  split_ifs at hstands with hstart
  · obtain ⟨rfl, hmessage⟩ := hstands
    rw [if_pos hstart]
    exact congrArg (fun message => { p with timeLossMessage := message, ticks := p.ticks + 1 }) hmessage.symm
  · obtain ⟨hloss, hmessage⟩ := hstands
    rw [if_neg hstart, if_pos hloss]
    exact congrArg (fun message => { p with timeLossMessage := message, ticks := p.ticks + 1 }) hmessage.symm

lemma calPktTimeLoss_message_iff :
    (p.calPktTimeLoss env t).timeLossMessage = p.timeLossMessage ↔ p.TimeStands env t := by
  constructor
  swap
  · intro h
    rw [calPktTimeLoss_of_stands h]
  intro h
  by_cases henable : p.enablePacketTimelossTool = false
  · exact Or.inl henable
  by_cases hgo : p.packetTimelossToolContinue = false ∧ p.timeLossMessage.totalTimelossCount ≠ 0
  · exact Or.inr (Or.inl hgo)
  refine Or.inr (Or.inr ?_)
  rw [calPktTimeLoss, if_neg henable, if_neg hgo] at h
  by_cases hstart : p.timeLossMessage.startTimestamp = 0
  · rw [if_pos hstart] at h ⊢
    obtain rfl : t = 0 := (congrArg PacketTimeLossMessage.startTimestamp h).trans hstart
    exact ⟨rfl, h.symm⟩
  · rw [if_neg hstart] at h ⊢
    by_cases hloss : p.seqnumLossMessage.isPacketLoss = true
    · rw [if_pos hloss] at h
      exact ⟨hloss, h.symm⟩
    · -- a packet that is not late moves the last timestamp on, one that is late is counted
      rw [if_neg hloss] at h
      have hlast : t = p.timeLossMessage.lastTimestamp := congrArg PacketTimeLossMessage.lastTimestamp h
      have htotal := congrArg PacketTimeLossMessage.totalTimelossCount h
      dsimp only at htotal
      rw [if_pos (UInt64.le_of_eq hlast)] at htotal
      split_ifs at htotal <;> exact absurd (UInt32.add_eq_left.mp htotal) (by decide)

end Counters

section Stands

variable {env : Environment} {p : GeneralParser} {seqNum : Option UInt32} {t : UInt64} {host : UInt64}

def seqReadings (seqNum : Option UInt32) (p : GeneralParser) : ℕ := if seqNum.isSome then p.lossReadings else 0

structure CountsStand (env : Environment) (seqNum : Option UInt32) (t host : UInt64) (p : GeneralParser) : Prop where
  loss : ∀ n, seqNum = some n → p.LossStands env n
  time : { p with ticks := p.ticks + p.seqReadings seqNum }.TimeStands env t
  host : host = env.clock (p.ticks + p.seqReadings seqNum + p.timeReadings)

lemma countSeqNum_lossCounts_iff :
    (p.countSeqNum env seqNum).lossCounts = p.lossCounts ↔ ∀ n, seqNum = some n → p.LossStands env n := by
  cases seqNum with
  | none => exact iff_of_true rfl fun _ hnone => absurd hnone (Option.some_ne_none _).symm
  | some n =>
    rw [countSeqNum, calPktLoss_lossCounts_iff]
    exact ⟨fun h m hm => Option.some.inj hm ▸ h, fun h => h n rfl⟩

lemma countSeqNum_of_stands (h : ∀ n, seqNum = some n → p.LossStands env n) :
    p.countSeqNum env seqNum = { p with ticks := p.ticks + p.seqReadings seqNum } := by
  cases seqNum with
  | none => rfl
  | some n => exact calPktLoss_of_stands (h n rfl)

lemma countsStand_iff : ((p.countSeqNum env seqNum).calPktTimeLoss env t).lossCounts = p.lossCounts ∧
      ((p.countSeqNum env seqNum).calPktTimeLoss env t).timeLossMessage = p.timeLossMessage ∧
      host = ((p.countSeqNum env seqNum).calPktTimeLoss env t).getMicroTickCountU64 env ↔
    p.CountsStand env seqNum t host := by
  rw [calPktTimeLoss_lossCounts, countSeqNum_lossCounts_iff]
  constructor
  · rintro ⟨hloss, htime, hhost⟩
    rw [countSeqNum_of_stands hloss] at htime hhost
    have hstands := calPktTimeLoss_message_iff.mp htime
    rw [calPktTimeLoss_of_stands hstands] at hhost
    exact ⟨hloss, hstands, hhost⟩
  · rintro ⟨hloss, hstands, hhost⟩
    rw [countSeqNum_of_stands hloss]
    refine ⟨hloss, calPktTimeLoss_message_iff.mpr hstands, ?_⟩
    rw [calPktTimeLoss_of_stands hstands]
    exact hhost

end Stands

section CountedAs

variable {g p : GeneralParser} {env : Environment} {n : UInt32} {t : UInt64} {azimuth : UInt16}

def countedAs (g p : GeneralParser) : GeneralParser := { p with
  totalPacketCount := g.totalPacketCount
  seqnumLossMessage := g.seqnumLossMessage
  timeLossMessage := g.timeLossMessage
  ticks := g.ticks }

lemma countSeqNum_countedAs {seqNum : Option UInt32} (h : countedAs g p = g) :
    countedAs (g.countSeqNum env seqNum) p = g.countSeqNum env seqNum := by
  cases seqNum with
  | none => exact h
  | some n =>
    obtain ⟨_, _, _, hframe⟩ := g.calPktLoss_frame env n
    rw [countSeqNum, hframe, ← h]
    rfl

lemma calPktTimeLoss_countedAs (h : countedAs g p = g) :
    countedAs (g.calPktTimeLoss env t) p = g.calPktTimeLoss env t := by
  obtain ⟨_, _, hframe⟩ := g.calPktTimeLoss_frame env t
  rw [hframe, ← h]
  rfl

lemma normalizeFrameStart_countedAs :
    (countedAs g p).normalizeFrameStart = countedAs g p.normalizeFrameStart := by
  have hstart : (countedAs g p).frameStartAzimuth = p.frameStartAzimuth := rfl
  rw [normalizeFrameStart, normalizeFrameStart, hstart]
  split_ifs <;> rfl

lemma isNeedFrameSplitUncast_countedAs : (countedAs g p).isNeedFrameSplitUncast azimuth =
    (countedAs g (p.isNeedFrameSplitUncast azimuth).1, (p.isNeedFrameSplitUncast azimuth).2) := by
  simp only [isNeedFrameSplitUncast, normalizeFrameStart_countedAs]
  generalize p.normalizeFrameStart = q
  have hlast : (countedAs g q).lastLastAzimuth = q.lastLastAzimuth := rfl
  have hdivision : (countedAs g q).division azimuth.toNat = q.division azimuth.toNat := rfl
  rw [hlast, hdivision]
  by_cases hnone : q.lastLastAzimuth = -1
  · rw [if_pos hnone, if_pos hnone]
  rw [if_neg hnone, if_neg hnone]
  by_cases hzero : q.division azimuth.toNat = 0
  · rw [if_pos hzero, if_pos hzero]
  · rw [if_neg hzero, if_neg hzero]
    rfl

lemma noteAzimuth_countedAs : (countedAs g p).noteAzimuth azimuth = countedAs g (p.noteAzimuth azimuth) := by
  have hlast : (countedAs g p).lastAzimuth = p.lastAzimuth := rfl
  rw [noteAzimuth, noteAzimuth, hlast]
  split_ifs <;> rfl

lemma countedAs_eq_iff : { countedAs g p with ticks := 0 } = { p with ticks := 0 } ↔
    g.lossCounts = p.lossCounts ∧ g.timeLossMessage = p.timeLossMessage := by
  constructor
  · intro h
    have htotal := congrArg totalPacketCount h
    have hseq := congrArg seqnumLossMessage h
    have htime := congrArg GeneralParser.timeLossMessage h
    exact ⟨Prod.ext htotal hseq, htime⟩
  · rintro ⟨hloss, htime⟩
    obtain ⟨htotal, hseq⟩ := Prod.mk.inj hloss
    rw [countedAs, htotal, hseq, htime]

end CountedAs

end GeneralParser

namespace Udp32Parser

section Tail

/-- Two messages with the same header counts, flags, body, tail and sequence number, of which the first has the
confidence level. -/
structure SameMessage (env : Environment) (a b : UdpPacket) : Prop where
  delimited : Delimited env a ↔ Delimited env b
  distUnit : (readHeader env a).val.distUnit = (readHeader env b).val.distUnit
  hasSeqNum : hasSeqNum (readHeader env a).val = hasSeqNum (readHeader env b).val
  hasSelfDefine : hasSelfDefine (readHeader env a).val = hasSelfDefine (readHeader env b).val
  confidence : hasConfidenceLevel (readHeader env a).val = true
  noConfidence : hasConfidenceLevel (readHeader env b).val = false
  body : SameBody env a b (layout (readHeader env a).val) (layout (readHeader env b).val)
  tail : ∀ k < sizeofTail, byteAt env a (tailOffset (readHeader env a).val + k) =
    byteAt env b (tailOffset (readHeader env b).val + k)
  seqNum : V32.hasSeqNum (readHeader env a).val = true →
    (readU32 env a (tailOffset (readHeader env a).val + sizeofTail)).val =
      (readU32 env b (tailOffset (readHeader env b).val + sizeofTail)).val

variable {env : Environment} {a b : UdpPacket} {o o' : ℕ}

lemma bytesAt_same {w : ℕ} (h : ∀ k < w, byteAt env a (o + k) = byteAt env b (o' + k)) :
    bytesAt (byteAt env a) o w = bytesAt (byteAt env b) o' w :=
  List.map_congr_left fun k hk => h k (List.mem_range.mp hk)

lemma getMicroLidarTime_same (h : ∀ k < sizeofTail, byteAt env a (o + k) = byteAt env b (o' + k)) :
    (V32.getMicroLidarTime env a o).val = (V32.getMicroLidarTime env b o').val := by
  have hbyte (k i : ℕ) (hk : k + i < sizeofTail) : byteAt env a (o + k + i) = byteAt env b (o' + k + i) := by
    rw [Nat.add_assoc, Nat.add_assoc]
    exact h _ hk
  have hyear := hbyte 15 0 (by decide)
  have hmon := hbyte 15 1 (by decide)
  have hmday := hbyte 15 2 (by decide)
  have hhour := hbyte 15 3 (by decide)
  have hmin := hbyte 15 4 (by decide)
  have hsec := hbyte 15 5 (by decide)
  have hmicro : bytesAt (byteAt env a) (o + 21) 4 = bytesAt (byteAt env b) (o' + 21) 4 :=
    bytesAt_same fun k hk => hbyte 21 k (by rw [sizeofTail]; omega)
  have hunix : bytesAt (byteAt env a) (o + 15 + 2) 4 = bytesAt (byteAt env b) (o' + 15 + 2) 4 :=
    bytesAt_same fun k hk => hbyte 17 k (by rw [sizeofTail]; omega)
  rw [Nat.add_zero, Nat.add_zero] at hyear
  rw [V32.getMicroLidarTime, V32.getMicroLidarTime, getMicroLidarTimeU64, getMicroLidarTimeU64, val_bind, val_bind,
    readU8_val, readU8_val, hyear]
  split_ifs with hzero
  · cases V61.tmYear (byteAt env b (o' + 15)) with
    | none => rfl
    | some year =>
      simp only [val_bind, val_pure, readU8_val, readU32, readBytes, hmon, hmday, hhour, hmin, hsec, hmicro]
  · simp only [val_bind, val_pure, readU32Big, readU32, readBytes, hunix, hmicro]

end Tail

section Paths

variable {Pt : Type} {env : Environment} {a b packet : UdpPacket} {p : Udp32Parser} {frame : LidarDecodedFrame Pt}
  {h : BodyHeader} {g : GeneralParser} {host host' time time' : UInt64} {motorSpeed azimuth : UInt16}
  {returnMode : UInt8} {pointData pointData' : ℕ → PointDecodeData}

/-- Two decodes leave the same, but for the confidence bytes and the number of readings of the clock. -/
structure SameDecode (d d' : Decoded Udp32Parser Pt) : Prop where
  ret : d.ret = d'.ret
  parser : { d.parser with ticks := 0 } = { d'.parser with ticks := 0 }
  frame : { d.frame with pointData := fun _ => default } = { d'.frame with pointData := fun _ => default }
  points : ∀ k, hideConfidence (d.frame.pointData k) = hideConfidence (d'.frame.pointData k)

def turned (motorSpeed azimuth : UInt16) (g : GeneralParser) : GeneralParser × Bool :=
  GeneralParser.turnTo isNeedFrameSplit azimuth { g with spinSpeed := motorSpeed }

lemma turned_countedAs (q : GeneralParser) : turned motorSpeed azimuth (GeneralParser.countedAs g q) =
    (GeneralParser.countedAs g (turned motorSpeed azimuth q).1, (turned motorSpeed azimuth q).2) := by
  have hsplit : isNeedFrameSplit azimuth { GeneralParser.countedAs g q with spinSpeed := motorSpeed } =
      (GeneralParser.countedAs g (isNeedFrameSplit azimuth { q with spinSpeed := motorSpeed }).1,
        (isNeedFrameSplit azimuth { q with spinSpeed := motorSpeed }).2) :=
    GeneralParser.isNeedFrameSplitUncast_countedAs (g := g) (p := { q with spinSpeed := motorSpeed })
  rw [turned, GeneralParser.turnTo, hsplit]
  exact Prod.ext GeneralParser.noteAzimuth_countedAs rfl

lemma turned_counters (motorSpeed azimuth : UInt16) (q : GeneralParser) :
    (turned motorSpeed azimuth q).1.lossCounts = q.lossCounts ∧
      (turned motorSpeed azimuth q).1.timeLossMessage = q.timeLossMessage := by
  simp only [turned, GeneralParser.turnTo, isNeedFrameSplit, GeneralParser.isCopy_uncast.fst_eq]
  obtain ⟨_, _, hnoted⟩ := GeneralParser.noteAzimuth_frame
    (GeneralParser.isNeedFrameSplit azimuth { q with spinSpeed := motorSpeed }).1 azimuth
  obtain ⟨_, _, hsplit⟩ := GeneralParser.isNeedFrameSplit_frame { q with spinSpeed := motorSpeed } azimuth
  rw [hnoted, hsplit]
  exact ⟨rfl, rfl⟩

/-- What both copies of the body make of the values they read. -/
def bodyDecode (p : Udp32Parser) (frame : LidarDecodedFrame Pt) (h : BodyHeader) (g : GeneralParser)
    (host time : UInt64) (motorSpeed azimuth : UInt16) (returnMode : UInt8) (pointData : ℕ → PointDecodeData) :
    Decoded Udp32Parser Pt :=
  ⟨0, { p with toGeneralParser := (turned motorSpeed azimuth g).1 }, { frame with
    sensorTimestamp := Function.update frame.sensorTimestamp frame.packetNum time
    perPointsNum := h.blockNum.toNat * h.laserNum.toNat
    scanComplete := (turned motorSpeed azimuth g).2
    blockNum := h.blockNum.toNat
    laserNum := h.laserNum.toNat
    distanceUnit := h.getDistUnit
    hostTimestamp := host
    spinSpeed := motorSpeed
    returnMode := returnMode.toUInt16
    pointData := pointData
    packetNum := frame.packetNum + 1 }⟩

lemma bodyDecode_same_iff (hg : GeneralParser.countedAs g p.toGeneralParser = g)
    (hpoints : ∀ k, hideConfidence (pointData k) = hideConfidence (pointData' k)) :
    SameDecode (bodyDecode p frame h g host time motorSpeed azimuth returnMode pointData)
        (bodyDecode p frame h p.toGeneralParser host' time' motorSpeed azimuth returnMode pointData') ↔
      (g.lossCounts = p.lossCounts ∧ g.timeLossMessage = p.timeLossMessage) ∧ host = host' ∧ time = time' := by
  obtain ⟨hloss, htime⟩ := turned_counters motorSpeed azimuth p.toGeneralParser
  rw [← hg, bodyDecode, bodyDecode, turned_countedAs]
  constructor
  · rintro ⟨-, hparsers, hframes, -⟩
    have hcounts := GeneralParser.countedAs_eq_iff.mp (congrArg Udp32Parser.toGeneralParser hparsers)
    have hhost := congrArg LidarDecodedFrame.hostTimestamp hframes
    have hstamp := congrFun (congrArg LidarDecodedFrame.sensorTimestamp hframes) frame.packetNum
    simp only [Function.update_self] at hstamp
    rw [hloss, htime] at hcounts
    exact ⟨hcounts, hhost, hstamp⟩
  · rintro ⟨hcounts, rfl, rfl⟩
    rw [← hloss, ← htime] at hcounts
    refine ⟨rfl, ?_, rfl, hpoints⟩
    exact congrArg (fun q => { p with toGeneralParser := q }) (GeneralParser.countedAs_eq_iff.mpr hcounts)

def timed (env : Environment) (packet : UdpPacket) (h : BodyHeader) (g : GeneralParser) : GeneralParser :=
  (g.countSeqNum env (seqNum env packet h)).calPktTimeLoss env (V32.getMicroLidarTime env packet (tailOffset h)).val

def storedTime (env : Environment) (packet : UdpPacket) (h : BodyHeader) (frame : LidarDecodedFrame Pt) : UInt64 :=
  if frame.useTimestampType = 0 then (V32.getMicroLidarTime env packet (tailOffset h)).val else packet.recvTimestamp

def walkedSlots (env : Environment) (packet : UdpPacket) (h : BodyHeader) (p : Udp32Parser)
    (frame : LidarDecodedFrame Pt) : ℕ → PointDecodeData :=
  (mechanicalWalk env packet (layout h)
    (p.fireTimes h (readU16 env packet (tailOffset h + 13)).val
      (if h.blockNum = 0 then 0 else byteAt env packet (tailOffset h + 5)) (byteAt env packet (tailOffset h + 12)))
    p.rotationFlag (storeConfidence env packet h) frame.packetNum frame.pointData).val.1.slots

lemma countPacket_val (hconf : hasConfidenceLevel h = true) :
    (countPacket env packet h g).val = timed env packet h g := by
  rw [timed, seqNum]
  by_cases hseq : V32.hasSeqNum h = true
  · rw [if_pos ⟨hconf, hseq⟩]
    simp only [countPacket, hseq, if_true, val_bind, val_pure, GeneralParser.countSeqNum]
  · rw [if_neg fun hboth => hseq hboth.2]
    simp only [countPacket, hseq, Bool.false_eq_true, if_false, val_bind, val_pure, GeneralParser.countSeqNum]

lemma timed_countedAs : GeneralParser.countedAs (timed env packet h g) g = timed env packet h g :=
  GeneralParser.calPktTimeLoss_countedAs (GeneralParser.countSeqNum_countedAs rfl)

lemma tick_timed_countedAs :
    GeneralParser.countedAs (timed env packet h g).tick g = (timed env packet h g).tick :=
  congrArg GeneralParser.tick timed_countedAs

lemma timed_stands_iff :
    ((timed env packet h g).tick.lossCounts = g.lossCounts ∧
        (timed env packet h g).tick.timeLossMessage = g.timeLossMessage) ∧
      (timed env packet h g).getMicroTickCountU64 env = host ↔
    g.CountsStand env (seqNum env packet h) (V32.getMicroLidarTime env packet (tailOffset h)).val host := by
  have hloss (q : GeneralParser) : q.tick.lossCounts = q.lossCounts := rfl
  have htime (q : GeneralParser) : q.tick.timeLossMessage = q.timeLossMessage := rfl
  rw [hloss, htime, timed, ← GeneralParser.countsStand_iff, and_assoc, eq_comm (b := host)]

lemma decodeBody_confidence (hconf : hasConfidenceLevel h = true) : (decodeBody env packet p frame h).val =
    bodyDecode p frame h (timed env packet h p.toGeneralParser).tick
      ((timed env packet h p.toGeneralParser).getMicroTickCountU64 env) (storedTime env packet h frame)
      (readU16 env packet (tailOffset h + 13)).val (bodyAzimuth env packet (layout h))
      (byteAt env packet (tailOffset h + 12)) (walkedSlots env packet h p frame) := by
  have hflag : (timed env packet h p.toGeneralParser).tick.rotationFlag = p.rotationFlag := by
    rw [← timed_countedAs]
    rfl
  simp only [decodeBody, hconf, if_true, val_bind, val_pure, val_ite, storeSensorTimestamp_val, readU8_val,
    mechanicalWalk_azimuth, countPacket_val hconf]
  rw [walkedSlots, ← hflag]
  rfl

lemma decodeBody_noConfidence (hconf : hasConfidenceLevel h = false) : (decodeBody env packet p frame h).val =
    bodyDecode p frame h p.toGeneralParser frame.hostTimestamp (storedTime env packet h frame)
      (readU16 env packet (tailOffset h + 13)).val (bodyAzimuth env packet (layout h))
      (byteAt env packet (tailOffset h + 12)) (walkedSlots env packet h p frame) := by
  simp only [decodeBody, hconf, Bool.false_eq_true, if_false, val_bind, val_pure, val_ite, storeSensorTimestamp_val,
    readU8_val, mechanicalWalk_azimuth]
  rfl

lemma hideConfidence_store (o : ℕ) (slot : PointDecodeData) :
    hideConfidence (storeConfidence env packet h o slot).val = hideConfidence slot := by
  rw [storeConfidence]
  split_ifs <;> rfl

lemma storedTime_same_iff (hsame : SameMessage env a b) :
    storedTime env a (readHeader env a).val frame = storedTime env b (readHeader env b).val frame ↔
      frame.useTimestampType = 0 ∨ a.recvTimestamp = b.recvTimestamp := by
  rw [storedTime, storedTime, getMicroLidarTime_same hsame.tail]
  split_ifs with huse
  · exact iff_of_true rfl (Or.inl huse)
  · exact (or_iff_right huse).symm

lemma laserNum_same (hsame : SameMessage env a b) :
    (readHeader env a).val.laserNum = (readHeader env b).val.laserNum :=
  UInt8.toNat_inj.mp hsame.body.laserNum

lemma blockNum_same (hsame : SameMessage env a b) :
    (readHeader env a).val.blockNum = (readHeader env b).val.blockNum :=
  UInt8.toNat_inj.mp hsame.body.blockNum

lemma motorSpeed_same (hsame : SameMessage env a b) :
    (readU16 env a (tailOffset (readHeader env a).val + 13)).val =
      (readU16 env b (tailOffset (readHeader env b).val + 13)).val := by
  have hbytes : bytesAt (byteAt env a) (tailOffset (readHeader env a).val + 13) 2 =
      bytesAt (byteAt env b) (tailOffset (readHeader env b).val + 13) 2 := by
    refine bytesAt_same fun k hk => ?_
    rw [Nat.add_assoc, Nat.add_assoc]
    exact hsame.tail _ (by rw [sizeofTail]; omega)
  simp only [readU16, readBytes, val_bind, val_pure, hbytes]

lemma walkedSlots_same (hsame : SameMessage env a b) (k : ℕ) :
    hideConfidence (walkedSlots env a (readHeader env a).val p frame k) =
      hideConfidence (walkedSlots env b (readHeader env b).val p frame k) := by
  have hfire : p.fireTimes (readHeader env a).val = p.fireTimes (readHeader env b).val := by
    funext motorSpeed modeFlag returnMode i j
    simp only [fireTimes, laserId, hsame.hasSelfDefine]
  rw [walkedSlots, walkedSlots, hfire, motorSpeed_same hsame, hsame.tail 12 (by decide), hsame.tail 5 (by decide),
    blockNum_same hsame]
  exact mechanicalWalk_same hsame.body hideConfidence_store hideConfidence_store k

lemma decodeBody_other (hsame : SameMessage env a b) : (decodeBody env b p frame (readHeader env b).val).val =
    bodyDecode p frame (readHeader env a).val p.toGeneralParser frame.hostTimestamp
      (storedTime env b (readHeader env b).val frame) (readU16 env a (tailOffset (readHeader env a).val + 13)).val
      (bodyAzimuth env a (layout (readHeader env a).val)) (byteAt env a (tailOffset (readHeader env a).val + 12))
      (walkedSlots env b (readHeader env b).val p frame) := by
  rw [decodeBody_noConfidence hsame.noConfidence, motorSpeed_same hsame, bodyAzimuth_same hsame.body,
    hsame.tail 12 (by decide)]
  simp only [bodyDecode, BodyHeader.getDistUnit, laserNum_same hsame, blockNum_same hsame, hsame.distUnit]

lemma decodePacket_val : (decodePacket env packet p frame).val =
    if p.getCorrectionFile = true ∧ Delimited env packet
    then (decodeBody env packet p frame (readHeader env packet).val).val else ⟨-1, p, frame⟩ := by
  rw [decodePacket, afterTests_val, val_bind]

/-- The two paths leave the same exactly if the counters and the host time stand already where the path with the
confidence level puts them. -/
theorem decodePacket_same_iff (env : Environment) (a b : UdpPacket) (hsame : SameMessage env a b) (p : Udp32Parser)
    (frame : LidarDecodedFrame Pt) :
    let h := (readHeader env a).val
    SameDecode (decodePacket env a p frame).val (decodePacket env b p frame).val ↔
      (p.getCorrectionFile = true ∧ Delimited env a →
        (frame.useTimestampType = 0 ∨ a.recvTimestamp = b.recvTimestamp) ∧
          p.CountsStand env (seqNum env a h) (V32.getMicroLidarTime env a (tailOffset h)).val
            frame.hostTimestamp) := by
  intro h
  rw [decodePacket_val, decodePacket_val]
  by_cases haccepted : p.getCorrectionFile = true ∧ Delimited env a
  · rw [if_pos haccepted, if_pos (haccepted.imp_right hsame.delimited.mp), forall_prop_of_true haccepted,
      decodeBody_confidence hsame.confidence, decodeBody_other hsame,
      bodyDecode_same_iff tick_timed_countedAs (walkedSlots_same hsame), storedTime_same_iff hsame,
      ← timed_stands_iff, ← and_assoc, and_comm]
  · rw [if_neg haccepted, if_neg fun hb => haccepted (hb.imp_right hsame.delimited.mpr)]
    exact iff_of_true ⟨rfl, rfl, rfl, fun _ => rfl⟩ fun haccepted' => absurd haccepted' haccepted

end Paths

section Inputs

/-- A block of one laser at 1 degree, with the distance 10 and the reflectivity 5, then the checksum and the tail. -/
def confidenceBytes (status : UInt8) (confidence : List UInt8) : List UInt8 :=
  [0xEE, 0xFF, 3, 2, 0, 0, 1, 1, 0, 4, 0, status, 100, 0, 10, 0, 5] ++ confidence ++ List.replicate 30 0

def withConfidence : UdpPacket := UdpPacket.ofBytes (confidenceBytes 0x10 [9])

def withoutConfidence : UdpPacket := UdpPacket.ofBytes (confidenceBytes 0 [])

def stopped : Environment := { (default : Environment) with clock := fun _ => 7 }

lemma sameMessage_one : SameMessage stopped withConfidence withoutConfidence := by
  constructor
  case body => exact ⟨by decide, by decide, by decide, by decide, by decide⟩
  all_goals decide

def calibrated : Udp32Parser := { (default : Udp32Parser) with getCorrectionFile := true }

def stamped (hostTimestamp : UInt64) : LidarDecodedFrame ℕ :=
  { (default : LidarDecodedFrame ℕ) with hostTimestamp := hostTimestamp }

theorem decodePacket_same_stamped :
    SameDecode (decodePacket stopped withConfidence calibrated (stamped 7)).val
      (decodePacket stopped withoutConfidence calibrated (stamped 7)).val := by
  have hnone : seqNum stopped withConfidence (readHeader stopped withConfidence).val = none := if_neg (by decide)
  refine (decodePacket_same_iff stopped withConfidence withoutConfidence sameMessage_one calibrated
    (stamped 7)).mpr fun _ => ⟨Or.inl rfl, fun n hn => ?_, Or.inl rfl, rfl⟩
  exact absurd (hnone.symm.trans hn) (Option.some_ne_none n).symm

/-- A new frame keeps the host time 0 without the confidence level. -/
theorem decodePacket_same_not : ¬∀ (env : Environment) (a b : UdpPacket), SameMessage env a b →
    ∀ (p : Udp32Parser) (frame : LidarDecodedFrame ℕ),
      SameDecode (decodePacket env a p frame).val (decodePacket env b p frame).val := by
  intro h
  have hframe := (h stopped withConfidence withoutConfidence sameMessage_one calibrated (stamped 0)).frame
  have hhost : (7 : UInt64) = 0 := congrArg LidarDecodedFrame.hostTimestamp hframe
  exact absurd hhost (by decide)

end Inputs

end Udp32Parser

end HesaiSdk.Parsing
