import HesaiSdk.UdpParser.EtDivision
import HesaiSdk.UdpParser.EtPacked

/-! The slots that decoding a 2.6 message fills with its first and second returns. -/

namespace HesaiSdk.Parsing.Udp26Parser

open Library Library.BlockWalk Lidar UdpProtocol UdpProtocol.V26

section Layout

variable (h : Header)

def perSeq : ℕ := h.getLaserNum / h.getSeqNum

def recordSize : ℕ := sizeofSeq2 + sizeofLasterUnit1 * perSeq h + sizeofLasterUnit2 * h.getSecRetNum

def recordOffset (s : ℕ) : ℕ := firstSeq + s * recordSize h

def unit1Offset (s u : ℕ) : ℕ := recordOffset h s + sizeofSeq2 + sizeofLasterUnit1 * u

def unit2Offset (s v : ℕ) : ℕ := unit1Offset h s (perSeq h) + sizeofLasterUnit2 * v

end Layout

section Trajectory

variable (env : Environment) (packet : UdpPacket) (h : Header) (index : ℕ) (slots : ℕ → PointDecodeData)

def angleAt (o : ℕ) : ℚ := (readI16 env packet o).val / 512

def unit1At (s u : ℕ) (old : PointDecodeData) : Logged DecodeEvent PointDecodeData :=
  writeUnit1 env packet (angleAt env packet (recordOffset h s)) (angleAt env packet (recordOffset h s + 2)) u
    (unit1Offset h s u) old

def unit2At (s v : ℕ) (old : PointDecodeData) : Logged DecodeEvent PointDecodeData :=
  writeUnit2 env packet (angleAt env packet (recordOffset h s)) (angleAt env packet (recordOffset h s + 2))
    (unit2Offset h s v) old

def cell1 (n : ℕ) (old : PointDecodeData) : PointDecodeData :=
  (unit1At env packet h (n / perSeq h) (n % perSeq h) old).val

def cell2 (n : ℕ) (old : PointDecodeData) : PointDecodeData :=
  (unit2At env packet h (n / h.getSecRetNum) (n % h.getSecRetNum) old).val

/-- The first returns from `index` on, and the second ones behind as many slots as there are lasers. -/
def filled (first second : ℕ) : ℕ → PointDecodeData :=
  fillTo (index + h.getLaserNum) (cell2 env packet h) second (fillTo index (cell1 env packet h) first slots)

def cursorAt (s u v : ℕ) : Cursor where
  seq := recordOffset h s
  unit1 := unit1Offset h s u
  unit2 := unit2Offset h s v
  indexUnit := index + (s * perSeq h + u)
  indexUnit2 := index + h.getLaserNum + (s * h.getSecRetNum + v)
  slots := filled env packet h index slots (s * perSeq h + u) (s * h.getSecRetNum + v)

def unit1Events (s u : ℕ) : List DecodeEvent :=
  (unit1At env packet h s u (slots (index + (s * perSeq h + u)))).log ++ [.pointData (index + (s * perSeq h + u))]

def unit2Events (s v : ℕ) : List DecodeEvent :=
  (unit2At env packet h s v (slots (index + h.getLaserNum + (s * h.getSecRetNum + v)))).log ++
    [.pointData (index + h.getLaserNum + (s * h.getSecRetNum + v))]

def seqEvents (s : ℕ) : List DecodeEvent :=
  (readI16 env packet (recordOffset h s)).log ++ ((readI16 env packet (recordOffset h s + 2)).log ++
    (.divide h.getSeqNum :: ((List.range (perSeq h)).flatMap (unit1Events env packet h index slots s) ++
      ((List.range h.getSecRetNum).flatMap (unit2Events env packet h index slots s) ++
        [.divide h.getSeqNum, .divide h.getSeqNum]))))

variable {env packet h index slots} {s u v : ℕ}

lemma first_le (hs : s < h.getSeqNum) (hu : u ≤ perSeq h) : s * perSeq h + u ≤ h.getLaserNum := by
  have hrows : (s + 1) * perSeq h ≤ h.getSeqNum * perSeq h := Nat.mul_le_mul_right _ hs
  have hlasers : h.getSeqNum * perSeq h ≤ h.getLaserNum := Nat.mul_div_le _ _
  rw [Nat.succ_mul] at hrows
  omega

lemma unitStep1_cursorAt (hs : s < h.getSeqNum) (hu : u < perSeq h) :
    unitStep1 env packet (angleAt env packet (recordOffset h s)) (angleAt env packet (recordOffset h s + 2)) u
      (cursorAt env packet h index slots s u 0) =
    ⟨cursorAt env packet h index slots s (u + 1) 0, unit1Events env packet h index slots s u⟩ := by
  have hin : s * perSeq h + u < h.getLaserNum := by
    have hle := first_le hs (Nat.succ_le_of_lt hu)
    omega
  have hold (second : ℕ) : filled env packet h index slots (s * perSeq h + u) second (index + (s * perSeq h + u)) =
      slots (index + (s * perSeq h + u)) := by
    rw [filled, fillTo_of_lt (by omega), fillTo_of_ge le_rfl]
  have hcell (old : PointDecodeData) : cell1 env packet h (s * perSeq h + u) old =
      (unit1At env packet h s u old).val := by
    obtain ⟨hd, hm⟩ := div_mod_row s hu
    rw [cell1, hd, hm]
  apply Logged.ext
  · simp only [unitStep1, cursorAt, val_bind, val_pure, hold]
    rw [Cursor.mk.injEq]
    refine ⟨rfl, ?_, rfl, rfl, rfl, ?_⟩
    · simp only [unit1Offset]
      ring
    · rw [filled, update_fillTo_of_lt (by omega)]
      have hnew := fillTo_succ index (cell1 env packet h) (s * perSeq h + u) slots
      rw [hcell] at hnew
      exact congrArg (fillTo _ _ _) hnew
  · simp only [unitStep1, cursorAt, log_bind, log_note, log_pure, List.append_nil, hold]
    rfl

lemma unitStep2_cursorAt (hs : s < h.getSeqNum) (hv : v < h.getSecRetNum) :
    unitStep2 env packet (angleAt env packet (recordOffset h s)) (angleAt env packet (recordOffset h s + 2)) v
      (cursorAt env packet h index slots s (perSeq h) v) =
    ⟨cursorAt env packet h index slots s (perSeq h) (v + 1), unit2Events env packet h index slots s v⟩ := by
  have hfirst : fillTo index (cell1 env packet h) (s * perSeq h + perSeq h) slots
      (index + h.getLaserNum + (s * h.getSecRetNum + v)) =
      slots (index + h.getLaserNum + (s * h.getSecRetNum + v)) := by
    have hle := first_le hs le_rfl
    exact fillTo_of_ge (by omega)
  have hold : filled env packet h index slots (s * perSeq h + perSeq h) (s * h.getSecRetNum + v)
      (index + h.getLaserNum + (s * h.getSecRetNum + v)) =
      slots (index + h.getLaserNum + (s * h.getSecRetNum + v)) := by
    rw [filled, fillTo_of_ge le_rfl, hfirst]
  have hcell (old : PointDecodeData) : cell2 env packet h (s * h.getSecRetNum + v) old =
      (unit2At env packet h s v old).val := by
    obtain ⟨hd, hm⟩ := div_mod_row s hv
    rw [cell2, hd, hm]
  apply Logged.ext
  · simp only [unitStep2, cursorAt, val_bind, val_pure, hold]
    rw [Cursor.mk.injEq]
    refine ⟨rfl, rfl, ?_, rfl, rfl, ?_⟩
    · simp only [unit2Offset]
      ring
    · have hnew := fillTo_succ (index + h.getLaserNum) (cell2 env packet h) (s * h.getSecRetNum + v)
        (fillTo index (cell1 env packet h) (s * perSeq h + perSeq h) slots)
      rw [hcell, hfirst] at hnew
      exact hnew
  · simp only [unitStep2, cursorAt, log_bind, log_note, log_pure, List.append_nil, hold]
    rfl

lemma seqStep_cursorAt (hs : s < h.getSeqNum) : seqStep env packet h s (cursorAt env packet h index slots s 0 0) =
    ⟨cursorAt env packet h index slots (s + 1) 0 0, seqEvents env packet h index slots s⟩ := by
  have hfirst := loop_trajectory (n := perSeq h) (fun u => cursorAt env packet h index slots s u 0)
    (unit1Events env packet h index slots s) rfl fun u hu => unitStep1_cursorAt hs hu
  have hsecond := loop_trajectory (n := h.getSecRetNum) (fun v => cursorAt env packet h index slots s (perSeq h) v)
    (unit2Events env packet h index slots s) rfl fun v hv => unitStep2_cursorAt hs hv
  simp only [angleAt] at hfirst hsecond
  have hval : (unitsPerSeq h).val = perSeq h := rfl
  have hlog : (unitsPerSeq h).log = [.divide h.getSeqNum] := rfl
  have hseq : (cursorAt env packet h index slots s 0 0).seq = recordOffset h s := rfl
  have hnext : recordOffset h (s + 1) = recordOffset h s + (sizeofSeq2 + sizeofLasterUnit1 * perSeq h +
      sizeofLasterUnit2 * h.getSecRetNum) := by
    simp only [recordOffset, recordSize]
    ring
  have hrow : s * perSeq h + perSeq h = (s + 1) * perSeq h + 0 := by ring
  have hrow2 : s * h.getSecRetNum + h.getSecRetNum = (s + 1) * h.getSecRetNum + 0 := by ring
  apply Logged.ext
  · simp only [seqStep, val_bind, val_pure, hval, hseq, hfirst, hsecond]
    simp only [cursorAt]
    rw [Cursor.mk.injEq, hrow, hrow2, ← hnext]
    exact ⟨rfl, rfl, rfl, rfl, rfl, rfl⟩
  · simp only [seqStep, log_bind, log_pure, hval, hlog, hseq, hfirst, hsecond, List.append_nil]
    rfl

lemma walk_eq : walk env packet h index slots =
    ⟨filled env packet h index slots (h.getSeqNum * perSeq h) (h.getSeqNum * h.getSecRetNum),
      .divide h.getSeqNum :: (List.range h.getSeqNum).flatMap (seqEvents env packet h index slots)⟩ := by
  have h0 : (⟨firstSeq, firstSeq + sizeofSeq2, firstSeq + sizeofSeq2 + sizeofLasterUnit1 * perSeq h, index,
      index + h.getLaserNum, slots⟩ : Cursor) = cursorAt env packet h index slots 0 0 0 := by
    simp only [cursorAt, filled, unit2Offset, unit1Offset, recordOffset, Nat.zero_mul, Nat.add_zero, Nat.mul_zero,
      fillTo_zero]
  have hseqs := loop_trajectory (n := h.getSeqNum) (fun s => cursorAt env packet h index slots s 0 0)
    (seqEvents env packet h index slots) h0 fun s hs => seqStep_cursorAt hs
  have hval : (unitsPerSeq h).val = perSeq h := rfl
  have hlog : (unitsPerSeq h).log = [.divide h.getSeqNum] := rfl
  apply Logged.ext
  · simp only [walk, val_bind, val_pure, hval, hseqs]
    rfl
  · simp only [walk, log_bind, log_pure, hval, hlog, hseqs, List.append_nil]
    rfl

end Trajectory

section Slots

variable {env : Environment} {packet : UdpPacket} {h : Header} {index : ℕ} {slots : ℕ → PointDecodeData}

lemma walk_filled : (walk env packet h index slots).log.filterMap filledSlot =
    (List.range h.getSeqNum).flatMap fun s => List.range' (index + s * perSeq h) (perSeq h) ++
      List.range' (index + h.getLaserNum + s * h.getSecRetNum) h.getSecRetNum := by
  have hunit1 (s u : ℕ) : (unit1Events env packet h index slots s u).filterMap filledSlot =
      [index + (s * perSeq h + u)] := by
    have hlog (old : PointDecodeData) : (unit1At env packet h s u old).log =
        [unit1Offset h s u + 2, unit1Offset h s u, unit1Offset h s u + 1].map .byte := rfl
    rw [unit1Events, hlog, List.filterMap_append, filterMap_filledSlot]
    rfl
  have hunit2 (s v : ℕ) : (unit2Events env packet h index slots s v).filterMap filledSlot =
      [index + h.getLaserNum + (s * h.getSecRetNum + v)] := by
    have hlog (old : PointDecodeData) : (unit2At env packet h s v old).log =
        [unit2Offset h s v + 3, unit2Offset h s v + 1, unit2Offset h s v + 1 + 1, unit2Offset h s v].map .byte := rfl
    rw [unit2Events, hlog, List.filterMap_append, filterMap_filledSlot]
    rfl
  have hrow (base n : ℕ) : (List.range n).flatMap (fun i => [base + i]) = List.range' base n := by
    rw [List.range'_eq_map_range, List.map_eq_flatMap]
  have hseq (s : ℕ) : (seqEvents env packet h index slots s).filterMap filledSlot =
      List.range' (index + s * perSeq h) (perSeq h) ++
        List.range' (index + h.getLaserNum + s * h.getSecRetNum) h.getSecRetNum := by
    rw [seqEvents, readI16_log, readI16_log]
    simp only [List.filterMap_append, filterMap_filledSlot, List.filterMap_cons, filledSlot, List.filterMap_nil,
      List.append_nil, List.nil_append, List.filterMap_flatMap, hunit1, hunit2, ← Nat.add_assoc, hrow]
  rw [walk_eq]
  simp only [List.filterMap_cons, filledSlot, List.filterMap_flatMap, hseq]

lemma count_flatMap_append (rows : ℕ) (a b : ℕ → List ℕ) (k : ℕ) :
    ((List.range rows).flatMap fun s => a s ++ b s).count k =
      ((List.range rows).flatMap a).count k + ((List.range rows).flatMap b).count k := by
  induction rows with
  | zero => rfl
  | succ n ih =>
    simp only [List.range_succ, List.flatMap_append, List.flatMap_singleton, List.count_append, ih]
    omega

lemma count_filled (k : ℕ) : ((walk env packet h index slots).log.filterMap filledSlot).count k =
    (if index ≤ k ∧ k < index + h.getSeqNum * perSeq h then 1 else 0) +
      if index + h.getLaserNum ≤ k ∧ k < index + h.getLaserNum + h.getSeqNum * h.getSecRetNum then 1 else 0 := by
  rw [walk_filled, count_flatMap_append, flatMap_range', flatMap_range', List.count_range_1', List.count_range_1']

variable (env packet h) in
/-- A slot holds what one of the returns in the packet makes of it. -/
def IsReturn (old new : PointDecodeData) : Prop :=
  (∃ s < h.getSeqNum, ∃ u < perSeq h, new = (unit1At env packet h s u old).val) ∨
    ∃ s < h.getSeqNum, ∃ v < h.getSecRetNum, new = (unit2At env packet h s v old).val

lemma walk_isReturn {k : ℕ} (hk : k < h.getSeqNum * perSeq h ∨
    h.getLaserNum ≤ k ∧ k < h.getLaserNum + h.getSeqNum * h.getSecRetNum) :
    IsReturn env packet h (slots (index + k)) ((walk env packet h index slots).val (index + k)) := by
  have hlasers : h.getSeqNum * perSeq h ≤ h.getLaserNum := Nat.mul_div_le _ _
  rw [walk_eq]
  rcases hk with hfirst | ⟨hlow, hsecond⟩
  · have hval : filled env packet h index slots (h.getSeqNum * perSeq h) (h.getSeqNum * h.getSecRetNum) (index + k) =
        cell1 env packet h k (slots (index + k)) := by
      rw [filled, fillTo_of_lt (by omega), fillTo_cell hfirst]
    have hpos : 0 < perSeq h := Nat.pos_of_mul_pos_left (Nat.zero_lt_of_lt hfirst)
    exact Or.inl ⟨k / perSeq h, (Nat.div_lt_iff_lt_mul hpos).mpr hfirst, k % perSeq h, Nat.mod_lt _ hpos, hval⟩
  · obtain ⟨j, rfl⟩ := Nat.exists_eq_add_of_le hlow
    have hj : j < h.getSeqNum * h.getSecRetNum := by omega
    have hval : filled env packet h index slots (h.getSeqNum * perSeq h) (h.getSeqNum * h.getSecRetNum)
        (index + (h.getLaserNum + j)) = cell2 env packet h j (slots (index + (h.getLaserNum + j))) := by
      rw [← Nat.add_assoc, filled, fillTo_cell hj, fillTo_of_ge (by omega)]
    have hpos : 0 < h.getSecRetNum := Nat.pos_of_mul_pos_left (Nat.zero_lt_of_lt hj)
    exact Or.inr ⟨j / h.getSecRetNum, (Nat.div_lt_iff_lt_mul hpos).mpr hj, j % h.getSecRetNum, Nat.mod_lt _ hpos, hval⟩

end Slots

section Announced

variable {Corrections Pt : Type} (env : Environment) (packet : UdpPacket) (h : Header)
  (frame : LidarDecodedFrame Pt) (d : Logged DecodeEvent (Decoded (EtParser Corrections) Pt))

/-- Each of the slots that the packet announces is filled once, and with a return of the packet. -/
def FillsAnnounced : Prop :=
  ∀ k < d.val.frame.perPointsNum,
    (d.log.filterMap filledSlot).count (frame.packetNum * d.val.frame.perPointsNum + k) = 1 ∧
      IsReturn env packet h (frame.pointData (frame.packetNum * d.val.frame.perPointsNum + k))
        (d.val.frame.pointData (frame.packetNum * d.val.frame.perPointsNum + k))

variable {env packet h frame} {p : EtParser Corrections}

lemma decodePacket_ret : (decodePacket env packet p frame).val.ret = 0 ↔
    p.getCorrectionFile = true ∧ Delimited env packet :=
  EtParser.guarded_ret rfl

lemma filledSlot_none {α : Type} {x : Logged DecodeEvent α} (h : AllLog (fun e => filledSlot e = none) x) :
    x.log.filterMap filledSlot = [] :=
  List.filterMap_eq_nil_iff.mpr h

variable (frame) in
lemma decodePacket_filled (hc : p.getCorrectionFile = true) (hd : Delimited env packet) :
    (decodePacket env packet p frame).log.filterMap filledSlot =
      (walk env packet (Header.headerAt env packet) (frame.packetNum * ((Header.headerAt env packet).getLaserNum +
        (Header.headerAt env packet).getSecRetNum * (Header.headerAt env packet).getSeqNum) *
          (Header.headerAt env packet).getBlockNum)
        frame.pointData).log.filterMap filledSlot := by
  have hval : (Header.read env packet).val = Header.headerAt env packet := rfl
  have hbyte (o : ℕ) : filledSlot (.byte o) = none := rfl
  have hdelimiter : AllLog (fun e => filledSlot e = none) (hasDelimiter env packet) := allLog_hasDelimiter hbyte
  have hread : AllLog (fun e => filledSlot e = none) (Header.read env packet) := by
    simp only [Header.read, allLog_bind, allLog_readU8 (P := fun e => filledSlot e = none) hbyte,
      allLog_readU16 (P := fun e => filledSlot e = none) hbyte, allLog_pure, and_self]
  have haround :
      EtParser.Around env packet (Header.headerAt env packet).message p frame (fun e => filledSlot e = none) :=
    EtParser.Around.of_byte hbyte rfl (fun _ => rfl) rfl
  obtain ⟨before, after, hlog, hbefore, hafter⟩ := haround.log (walk env packet (Header.headerAt env packet)
    (frame.packetNum * ((Header.headerAt env packet).getLaserNum +
      (Header.headerAt env packet).getSecRetNum * (Header.headerAt env packet).getSeqNum) *
        (Header.headerAt env packet).getBlockNum))
  rw [decodePacket, EtParser.guarded_log hc hd, log_bind, hval, hlog]
  simp only [List.filterMap_append, filledSlot_none hdelimiter, filledSlot_none hread,
    List.filterMap_eq_nil_iff.mpr hbefore, List.filterMap_eq_nil_iff.mpr hafter, List.nil_append, List.append_nil]

variable (frame) in
lemma decodePacket_val (hc : p.getCorrectionFile = true) (hd : Delimited env packet) :
    (decodePacket env packet p frame).val = (EtParser.decodeMessage env packet (Header.headerAt env packet).message p
      frame (walk env packet (Header.headerAt env packet) (frame.packetNum * ((Header.headerAt env packet).getLaserNum +
        (Header.headerAt env packet).getSecRetNum * (Header.headerAt env packet).getSeqNum) *
        (Header.headerAt env packet).getBlockNum))).val := by
  have hval : (Header.read env packet).val = Header.headerAt env packet := rfl
  rw [decodePacket, EtParser.guarded_val, if_pos ⟨hc, hd⟩, val_bind, hval]

variable (frame) in
lemma decodePacket_perPointsNum (hc : p.getCorrectionFile = true) (hd : Delimited env packet) :
    (decodePacket env packet p frame).val.frame.perPointsNum = (Header.headerAt env packet).perPointsNum := by
  rw [decodePacket_val frame hc hd, EtParser.decodeMessage_perPointsNum]
  rfl

variable (frame) in
lemma decodePacket_count (hc : p.getCorrectionFile = true) (hd : Delimited env packet) (k : ℕ) :
    ((decodePacket env packet p frame).log.filterMap filledSlot).count
      (frame.packetNum * (Header.headerAt env packet).perPointsNum + k) =
    (if k < (Header.headerAt env packet).getSeqNum * perSeq (Header.headerAt env packet) then 1 else 0) +
      if (Header.headerAt env packet).getLaserNum ≤ k ∧ k < (Header.headerAt env packet).getLaserNum +
        (Header.headerAt env packet).getSecRetNum * (Header.headerAt env packet).getSeqNum then 1 else 0 := by
  rw [decodePacket_filled frame hc hd, count_filled, Header.perPointsNum, ← Nat.mul_assoc,
    Nat.mul_comm (Header.headerAt env packet).getSeqNum (Header.headerAt env packet).getSecRetNum]
  congr 1
  · exact if_congr (by omega) rfl rfl
  · exact if_congr (by omega) rfl rfl

end Announced

/-- Only the first block is filled, and of it no laser beyond the last full sequence. -/
theorem fillsAnnounced_iff {Corrections Pt : Type} (env : Environment) (packet : UdpPacket)
    (p : EtParser Corrections) (frame : LidarDecodedFrame Pt) (hret : (decodePacket env packet p frame).val.ret = 0) :
    FillsAnnounced env packet (Header.headerAt env packet) frame (decodePacket env packet p frame) ↔
      (Header.headerAt env packet).getLaserNum +
        (Header.headerAt env packet).getSecRetNum * (Header.headerAt env packet).getSeqNum = 0 ∨
      (Header.headerAt env packet).getBlockNum = 0 ∨
      (Header.headerAt env packet).getBlockNum = 1 ∧
        (Header.headerAt env packet).getSeqNum ∣ (Header.headerAt env packet).getLaserNum := by
  obtain ⟨hc, hd⟩ := decodePacket_ret.mp hret
  have hcount := decodePacket_count frame hc hd
  have hper := decodePacket_perPointsNum frame hc hd
  have hval := decodePacket_val frame hc hd
  set h := Header.headerAt env packet
  have hlasers : h.getSeqNum * perSeq h ≤ h.getLaserNum := Nat.mul_div_le _ _
  rw [FillsAnnounced, hper]
  simp only [hcount]
  constructor
  · intro hall
    by_contra hnot
    push Not at hnot
    obtain ⟨hsome, hblocks, hone⟩ := hnot
    rcases Nat.lt_or_ge 1 h.getBlockNum with hmore | hle
    · -- the second block is announced, and nothing is filled behind the first
      have hlt : h.getLaserNum + h.getSecRetNum * h.getSeqNum < h.perPointsNum :=
        lt_mul_of_one_lt_right (Nat.pos_of_ne_zero hsome) hmore
      have honce := (hall _ hlt).1
      rw [if_neg (by omega), if_neg (by omega)] at honce
      omega
    · have hb : h.getBlockNum = 1 := by omega
      have hshort : h.getSeqNum * perSeq h ≠ h.getLaserNum := fun heq => hone hb ⟨perSeq h, heq.symm⟩
      have honce := (hall (h.getSeqNum * perSeq h) (by rw [Header.perPointsNum, hb, Nat.mul_one]; omega)).1
      rw [if_neg (by omega), if_neg (by omega)] at honce
      omega
  · intro hcond k hk
    rw [Header.perPointsNum] at hk
    rcases hcond with hnone | hnone | ⟨hb, hdvd⟩
    · rw [hnone, Nat.zero_mul] at hk
      omega
    · rw [hnone, Nat.mul_zero] at hk
      omega
    · have hfull : h.getSeqNum * perSeq h = h.getLaserNum := Nat.mul_div_cancel' hdvd
      have hreturns : h.getSeqNum * h.getSecRetNum = h.getSecRetNum * h.getSeqNum := Nat.mul_comm _ _
      rw [hb, Nat.mul_one] at hk
      constructor
      · rcases Nat.lt_or_ge k h.getLaserNum with hlow | hhigh
        · rw [if_pos (by omega), if_neg (by omega)]
        · rw [if_neg (by omega), if_pos (by omega)]
      · rw [hval, EtParser.decodeMessage_pointData, Header.perPointsNum, ← Nat.mul_assoc]
        exact walk_isReturn (by omega)

def twoLaserPacket (blockNum : UInt8) : UdpPacket :=
  UdpPacket.ofBytes [0xEE, 0xFF, 2, 6, 0, 0, 2, 0, blockNum, 1, 5, 1, 0, 0]

theorem fillsAnnounced_one_block :
    (decodePacket default (twoLaserPacket 1) loadedEtParser (default : LidarDecodedFrame ℕ)).val.ret = 0 ∧
      FillsAnnounced default (twoLaserPacket 1) (Header.headerAt default (twoLaserPacket 1))
        (default : LidarDecodedFrame ℕ) (decodePacket default (twoLaserPacket 1) loadedEtParser default) := by
  have hret : (decodePacket default (twoLaserPacket 1) loadedEtParser (default : LidarDecodedFrame ℕ)).val.ret = 0 :=
    decodePacket_ret.mpr ⟨rfl, by decide⟩
  exact ⟨hret, (fillsAnnounced_iff default (twoLaserPacket 1) loadedEtParser default hret).mpr
    (Or.inr (Or.inr (by decide)))⟩

/-- Of the four slots that two blocks announce the last two are left. -/
theorem fillsAnnounced_two_blocks : ¬∀ (env : Environment) (packet : UdpPacket) (p : EtParser Unit)
    (frame : LidarDecodedFrame ℕ), (decodePacket env packet p frame).val.ret = 0 →
    1 ≤ (Header.headerAt env packet).getSeqNum →
    FillsAnnounced env packet (Header.headerAt env packet) frame (decodePacket env packet p frame) := by
  intro h
  have hd : Delimited default (twoLaserPacket 2) := by decide
  have hfills := h default (twoLaserPacket 2) loadedEtParser default (decodePacket_ret.mpr ⟨rfl, hd⟩) (by decide)
  rw [FillsAnnounced, decodePacket_perPointsNum _ rfl hd] at hfills
  have honce := (hfills 2 (by decide)).1
  rw [decodePacket_count _ rfl hd] at honce
  exact absurd honce (by decide)

end HesaiSdk.Parsing.Udp26Parser
