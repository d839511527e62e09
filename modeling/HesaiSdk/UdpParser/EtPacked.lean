import HesaiSdk.UdpParser.EtBody

/-! The walk over the body of an ET message meets the packed layout. -/

namespace HesaiSdk.Parsing

open Library Library.BlockWalk Lidar UdpProtocol

def byteOffset : DecodeEvent → Option ℕ
  | .byte o => some o
  | _ => none

def filledSlot : DecodeEvent → Option ℕ
  | .pointData k => some k
  | _ => none

lemma filterMap_byteOffset (offsets : List ℕ) : (offsets.map DecodeEvent.byte).filterMap byteOffset = offsets := by
  rw [List.filterMap_map]
  exact List.filterMap_some

lemma filterMap_filledSlot (offsets : List ℕ) : (offsets.map DecodeEvent.byte).filterMap filledSlot = [] := by
  rw [List.filterMap_map]
  exact List.filterMap_eq_nil_iff.mpr fun _ _ => rfl

lemma readI16_log (env : Environment) (packet : UdpPacket) (o : ℕ) :
    (readI16 env packet o).log = [o, o + 1].map .byte := rfl

namespace EtBody

section Layout

variable (body : EtBody)

def perSeq : ℕ := body.laserNum / body.seqNum

def recordSize : ℕ := body.seqSize + body.unitSize * body.perSeq

def recordOffset (b s : ℕ) : ℕ :=
  13 + b * (sizeofPointId + body.seqNum * body.recordSize) + sizeofPointId + s * body.recordSize

def unitOffset (b s u : ℕ) : ℕ := body.recordOffset b s + body.seqSize + body.unitSize * u

def unitNumber (b s u : ℕ) : ℕ := (b * body.seqNum + s) * body.perSeq + u

variable {body} {b s u : ℕ}

lemma unitNumber_div (hs : s < body.seqNum) (hu : u < body.perSeq) :
    body.unitNumber b s u / body.perSeq / body.seqNum = b ∧ body.unitNumber b s u / body.perSeq % body.seqNum = s ∧
      body.unitNumber b s u % body.perSeq = u := by
  obtain ⟨hd, hm⟩ := div_mod_row (b * body.seqNum + s) hu
  obtain ⟨hdb, hms⟩ := div_mod_row b hs
  rw [unitNumber, hd, hdb, hms, hm]
  exact ⟨rfl, rfl, rfl⟩

lemma unitNumber_perSeq : body.unitNumber b s body.perSeq = body.unitNumber b (s + 1) 0 := by
  simp only [unitNumber]
  ring

lemma unitNumber_seqNum : body.unitNumber b body.seqNum 0 = body.unitNumber (b + 1) 0 0 := by
  simp only [unitNumber]
  ring

lemma recordOffset_succ : body.recordOffset b (s + 1) = body.recordOffset b s + body.recordSize := by
  simp only [recordOffset]
  ring

lemma recordOffset_seqNum : body.recordOffset b body.seqNum + sizeofPointId = body.recordOffset (b + 1) 0 := by
  simp only [recordOffset]
  ring

end Layout

section Trajectory

variable (env : Environment) (packet : UdpPacket) (body : EtBody) (index : ℕ) (slots : ℕ → PointDecodeData)

def angleAt (o : ℕ) : ℚ := (readI16 env packet o).val / 512

def unitAt (b s u : ℕ) (old : PointDecodeData) : Logged DecodeEvent PointDecodeData :=
  body.writeUnit (angleAt env packet (body.recordOffset b s)) (angleAt env packet (body.recordOffset b s + 2))
    (body.unitOffset b s u) old

def cell (n : ℕ) (old : PointDecodeData) : PointDecodeData :=
  (body.unitAt env packet (n / body.perSeq / body.seqNum) (n / body.perSeq % body.seqNum) (n % body.perSeq) old).val

def cursorAt (b s u : ℕ) : EtCursor where
  seq := body.recordOffset b s
  unit := body.unitOffset b s u
  index := index + body.unitNumber b s u
  slots := fillTo index (body.cell env packet) (body.unitNumber b s u) slots

def unitEvents (b s u : ℕ) : List DecodeEvent :=
  (body.unitAt env packet b s u (slots (index + body.unitNumber b s u))).log ++
    [.pointData (index + body.unitNumber b s u)]

def seqEvents (b s : ℕ) : List DecodeEvent :=
  (readI16 env packet (body.recordOffset b s)).log ++ ((readI16 env packet (body.recordOffset b s + 2)).log ++
    (.divide body.seqNum :: (((List.range body.perSeq).flatMap (body.unitEvents env packet index slots b s)) ++
      [.divide body.seqNum])))

def blockEvents (b : ℕ) : List DecodeEvent := (List.range body.seqNum).flatMap (body.seqEvents env packet index slots b)

variable {env packet body index slots} {b s u : ℕ}

lemma cell_unitNumber (hs : s < body.seqNum) (hu : u < body.perSeq) (old : PointDecodeData) :
    body.cell env packet (body.unitNumber b s u) old = (body.unitAt env packet b s u old).val := by
  obtain ⟨hb, hs', hu'⟩ := unitNumber_div (b := b) hs hu
  rw [cell, hb, hs', hu']

lemma unitStep_cursorAt (hs : s < body.seqNum) (hu : u < body.perSeq) :
    body.unitStep (angleAt env packet (body.recordOffset b s)) (angleAt env packet (body.recordOffset b s + 2)) u
      (body.cursorAt env packet index slots b s u) =
    ⟨body.cursorAt env packet index slots b s (u + 1), body.unitEvents env packet index slots b s u⟩ := by
  have hold : fillTo index (body.cell env packet) (body.unitNumber b s u) slots (index + body.unitNumber b s u) =
      slots (index + body.unitNumber b s u) := fillTo_of_ge le_rfl
  have hnew := fillTo_succ index (body.cell env packet) (body.unitNumber b s u) slots
  rw [cell_unitNumber hs hu] at hnew
  apply Logged.ext
  · simp only [unitStep, cursorAt, val_bind, val_pure, hold]
    rw [EtCursor.mk.injEq]
    refine ⟨rfl, ?_, rfl, hnew⟩
    simp only [unitOffset]
    ring
  · simp only [unitStep, cursorAt, log_bind, log_note, log_pure, List.append_nil, hold]
    rfl

lemma seqStep_cursorAt (hs : s < body.seqNum) :
    body.seqStep env packet s (body.cursorAt env packet index slots b s 0) =
      ⟨body.cursorAt env packet index slots b (s + 1) 0, body.seqEvents env packet index slots b s⟩ := by
  have hunits : loop (body.unitStep ((readI16 env packet (body.recordOffset b s)).val / 512)
      ((readI16 env packet (body.recordOffset b s + 2)).val / 512)) body.perSeq
        (body.cursorAt env packet index slots b s 0) =
      ⟨body.cursorAt env packet index slots b s body.perSeq,
        (List.range body.perSeq).flatMap (body.unitEvents env packet index slots b s)⟩ :=
    loop_trajectory _ _ rfl fun u hu => unitStep_cursorAt hs hu
  have hval : body.unitsPerSeq.val = body.perSeq := rfl
  have hlog : body.unitsPerSeq.log = [.divide body.seqNum] := rfl
  have hseq : (body.cursorAt env packet index slots b s 0).seq = body.recordOffset b s := rfl
  apply Logged.ext
  · simp only [seqStep, val_bind, val_pure, hval, hseq, hunits]
    simp only [cursorAt]
    rw [EtCursor.mk.injEq, unitNumber_perSeq, recordOffset_succ]
    refine ⟨rfl, ?_, rfl, rfl⟩
    rw [unitOffset, recordOffset_succ]
    rfl
  · simp only [seqStep, log_bind, log_pure, hval, hlog, hseq, hunits, List.append_nil]
    rfl

lemma blockStep_cursorAt : body.blockStep env packet b (body.cursorAt env packet index slots b 0 0) =
    ⟨body.cursorAt env packet index slots (b + 1) 0 0, body.blockEvents env packet index slots b⟩ := by
  have hseqs := loop_trajectory (n := body.seqNum) (fun s => body.cursorAt env packet index slots b s 0)
    (body.seqEvents env packet index slots b) rfl fun s hs => seqStep_cursorAt hs
  apply Logged.ext
  · simp only [blockStep, val_bind, val_pure, hseqs]
    simp only [cursorAt]
    rw [EtCursor.mk.injEq, unitNumber_seqNum, recordOffset_seqNum]
    refine ⟨rfl, ?_, rfl, rfl⟩
    rw [unitOffset, unitOffset, ← recordOffset_seqNum]
    ring
  · simp only [blockStep, log_bind, log_pure, List.append_nil, hseqs, blockEvents]

lemma walk_eq : body.walk env packet index slots =
    ⟨fillTo index (body.cell env packet) (body.unitNumber body.blockNum 0 0) slots,
      (List.range body.blockNum).flatMap (body.blockEvents env packet index slots)⟩ := by
  have h0 : (⟨firstSeq, firstSeq + body.seqSize, index, slots⟩ : EtCursor) =
      body.cursorAt env packet index slots 0 0 0 := by
    simp only [cursorAt, unitNumber, recordOffset, unitOffset, firstSeq, Nat.zero_mul, Nat.add_zero, Nat.mul_zero,
      fillTo_zero]
  have hblocks := loop_trajectory (n := body.blockNum) (fun b => body.cursorAt env packet index slots b 0 0)
    (body.blockEvents env packet index slots) h0 fun b _ => blockStep_cursorAt
  apply Logged.ext
  · rw [walk, val_bind, hblocks]
    rfl
  · rw [walk, log_bind, hblocks, log_pure, List.append_nil]

end Trajectory

end EtBody

end HesaiSdk.Parsing
