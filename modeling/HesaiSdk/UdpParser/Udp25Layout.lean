import HesaiSdk.UdpParser.EtDivision
import HesaiSdk.UdpParser.EtPacked

/-! The walk over the body of a 2.5 message ends where the tail is read. -/

namespace HesaiSdk.Parsing

open Library Library.BlockWalk Lidar UdpProtocol

namespace EtBody

section Events

variable (body : EtBody) (unitReads : ℕ → List ℕ)

def packedReads : List ℕ :=
  (List.range body.blockNum).flatMap fun b => (List.range body.seqNum).flatMap fun s =>
    [body.recordOffset b s, body.recordOffset b s + 1, body.recordOffset b s + 2, body.recordOffset b s + 3] ++
      (List.range body.perSeq).flatMap fun u => unitReads (body.unitOffset b s u)

variable {body unitReads} {env : Environment} {packet : UdpPacket} {index : ℕ} {slots : ℕ → PointDecodeData}
  (hu : ∀ azimuth elevation o slot, (body.writeUnit azimuth elevation o slot).log = (unitReads o).map .byte)

include hu

lemma walk_reads : (body.walk env packet index slots).log.filterMap byteOffset = body.packedReads unitReads := by
  have hunit (b s u : ℕ) : (body.unitEvents env packet index slots b s u).filterMap byteOffset =
      unitReads (body.unitOffset b s u) := by
    rw [unitEvents, unitAt, hu, List.filterMap_append, filterMap_byteOffset]
    exact List.append_nil _
  have hseq (b s : ℕ) : (body.seqEvents env packet index slots b s).filterMap byteOffset =
      [body.recordOffset b s, body.recordOffset b s + 1, body.recordOffset b s + 2, body.recordOffset b s + 3] ++
        (List.range body.perSeq).flatMap fun u => unitReads (body.unitOffset b s u) := by
    rw [seqEvents, readI16_log, readI16_log]
    simp only [List.filterMap_append, filterMap_byteOffset, List.filterMap_cons, byteOffset, List.filterMap_nil,
      List.append_nil, List.filterMap_flatMap, hunit]
    rfl
  simp only [walk_eq, blockEvents, List.filterMap_flatMap, hseq, packedReads]

lemma walk_filled : (body.walk env packet index slots).log.filterMap filledSlot =
    List.range' index (body.blockNum * (body.seqNum * body.perSeq)) := by
  have hunit (b s u : ℕ) : (body.unitEvents env packet index slots b s u).filterMap filledSlot =
      [index + body.unitNumber b s u] := by
    rw [unitEvents, unitAt, hu, List.filterMap_append, filterMap_filledSlot]
    rfl
  have hseq (b s : ℕ) : (body.seqEvents env packet index slots b s).filterMap filledSlot =
      List.range' (index + b * (body.seqNum * body.perSeq) + s * body.perSeq) body.perSeq := by
    rw [seqEvents, readI16_log, readI16_log]
    simp only [List.filterMap_append, filterMap_filledSlot, List.filterMap_cons, filledSlot, List.filterMap_nil,
      List.append_nil, List.nil_append, List.filterMap_flatMap, hunit]
    rw [List.range'_eq_map_range, List.map_eq_flatMap]
    refine List.flatMap_congr fun u _ => ?_
    simp only [unitNumber]
    ring_nf
  simp only [walk_eq, blockEvents, List.filterMap_flatMap, hseq, flatMap_range']

end Events

section Extent

variable (body : EtBody)

def endOffset : ℕ := 13 + body.blockNum * (sizeofPointId + body.seqNum * body.recordSize)

variable {body}

lemma recordOffset_le_end {b s : ℕ} (hb : b < body.blockNum) (hs : s < body.seqNum) :
    13 ≤ body.recordOffset b s ∧ body.recordOffset b s + body.recordSize ≤ body.endOffset := by
  have hrecord : (s + 1) * body.recordSize ≤ body.seqNum * body.recordSize := Nat.mul_le_mul_right _ hs
  have hblock : (b + 1) * (sizeofPointId + body.seqNum * body.recordSize) ≤
      body.blockNum * (sizeofPointId + body.seqNum * body.recordSize) := Nat.mul_le_mul_right _ hb
  rw [Nat.succ_mul] at hrecord hblock
  simp only [recordOffset, endOffset]
  omega

lemma unitOffset_last (hB : 1 ≤ body.blockNum) (hS : 1 ≤ body.seqNum) :
    body.unitOffset (body.blockNum - 1) (body.seqNum - 1) body.perSeq = body.endOffset := by
  obtain ⟨blocks, hblocks⟩ := Nat.exists_eq_add_of_le' hB
  obtain ⟨seqs, hseqs⟩ := Nat.exists_eq_add_of_le' hS
  simp only [unitOffset, recordOffset, endOffset, hblocks, hseqs, Nat.add_sub_cancel, recordSize]
  ring

end Extent

end EtBody

section Outside

variable {tail : ℕ}

def bodyReads (tail : ℕ) (log : List DecodeEvent) : List ℕ :=
  (log.filterMap byteOffset).filter fun o => 13 ≤ o ∧ o < tail

def outsideBody (tail : ℕ) : Bounds where
  byte o := o < 13 ∨ tail ≤ o
  pointData _ := False

lemma bodyReads_append (log log' : List DecodeEvent) :
    bodyReads tail (log ++ log') = bodyReads tail log ++ bodyReads tail log' := by
  rw [bodyReads, List.filterMap_append, List.filter_append]
  rfl

lemma outsideBody_nil {log : List DecodeEvent} (h : ∀ e ∈ log, (outsideBody tail).Allows e) :
    bodyReads tail log = [] ∧ log.filterMap filledSlot = [] := by
  constructor
  · rw [bodyReads, List.filter_eq_nil_iff]
    intro o ho
    obtain ⟨e, he, heo⟩ := List.mem_filterMap.mp ho
    cases e with
    | byte o' =>
      obtain rfl := Option.some.inj heo
      have houtside : o' < 13 ∨ tail ≤ o' := h _ he
      simp only [decide_eq_true_eq]
      omega
    | _ => exact absurd heo (by simp [byteOffset])
  · rw [List.filterMap_eq_nil_iff]
    intro e he
    cases e with
    | pointData k => exact absurd (h _ he) not_false
    | _ => rfl

end Outside

namespace Udp25Parser

section Sizes

variable {env : Environment} {packet : UdpPacket} {h : EtHeader} {mirrorIndex : UInt8}

variable (env packet h mirrorIndex) in
lemma endOffset_body : (body env packet h mirrorIndex).endOffset + 67 = V25.sizeSum h := by
  simp only [EtBody.endOffset, EtBody.recordSize, EtBody.perSeq, body, V25.sizeSum, EtBody.sizeofPointId,
    V25.sizeofSeq3, V25.sizeofLasterUnit]
  ring

lemma message_offsets (hsize : V25.sizeSum h < 65536) :
    (V25.message h).tailOffset + 63 = V25.sizeSum h ∧ (V25.message h).seqNumOffset + 40 = V25.sizeSum h := by
  have hend := endOffset_body default default h 0
  have hmod : V25.getPacketSize h = V25.sizeSum h := Nat.mod_eq_of_lt hsize
  have htail : (V25.message h).tailOffset = pointerBack (V25.getPacketSize h) (40 + 23) := rfl
  have hseq : (V25.message h).seqNumOffset = pointerBack (V25.getPacketSize h) 40 := rfl
  rw [htail, hseq, hmod, pointerBack_of_le (by omega) hsize, pointerBack_of_le (by omega) hsize]
  omega

variable (env packet mirrorIndex) in
lemma tailOffset_eq (hsize : V25.sizeSum h < 65536) :
    (V25.message h).tailOffset = (body env packet h mirrorIndex).endOffset + 4 := by
  have hend := endOffset_body env packet h mirrorIndex
  have htail := (message_offsets hsize).1
  omega

end Sizes

section Reads

variable {env : Environment} {packet : UdpPacket} {h : EtHeader} {mirrorIndex : UInt8}

def unitReads (o : ℕ) : List ℕ := [o + 2, o, o + 1]

lemma writeUnit_log (azimuth elevation : ℚ) (o : ℕ) (slot : PointDecodeData) :
    ((body env packet h mirrorIndex).writeUnit azimuth elevation o slot).log = (unitReads o).map .byte := rfl

lemma packedReads_inside {o : ℕ} (ho : o ∈ (body env packet h mirrorIndex).packedReads unitReads) :
    13 ≤ o ∧ o < (body env packet h mirrorIndex).endOffset := by
  simp only [EtBody.packedReads, List.mem_flatMap, List.mem_range, List.mem_append, List.mem_cons, List.not_mem_nil,
    or_false, unitReads] at ho
  obtain ⟨b, hb, s, hs, ho⟩ := ho
  obtain ⟨hlow, hhigh⟩ := EtBody.recordOffset_le_end hb hs
  have hrecord : (body env packet h mirrorIndex).recordSize = 5 + 3 * (body env packet h mirrorIndex).perSeq := rfl
  rcases ho with ho | ⟨u, hu, ho⟩
  · omega
  · have hunit : (body env packet h mirrorIndex).unitOffset b s u =
        (body env packet h mirrorIndex).recordOffset b s + 5 + 3 * u := rfl
    omega

lemma outside_around {Corrections Pt : Type} {p : EtParser Corrections} {frame : LidarDecodedFrame Pt}
    (hsize : V25.sizeSum h < 65536) : EtParser.Around env packet (V25.message h) p frame
      (outsideBody (V25.message h).tailOffset).Allows := by
  obtain ⟨htail, hseq⟩ := message_offsets hsize
  refine EtParser.Around.of_tail (fun o ho => Or.inr ho) (by omega) ?_ (Nat.le_add_right _ _) (fun _ => trivial) trivial
  intro o ho
  obtain rfl := Option.some.inj ho
  exact Nat.le_add_right _ _

end Reads

section Layout

variable {Corrections Pt : Type} (env : Environment) (packet : UdpPacket) (h : EtHeader)
  (frame : LidarDecodedFrame Pt) (d : Logged DecodeEvent (Decoded (EtParser Corrections) Pt))

abbrev packedBody : EtBody := body env packet h (byteAt env packet (V25.mirrorIndexOffset h))

/-- Decoding meets the packed layout: per block a point id, and per sequence an angle record and its units. -/
structure MeetsLayout : Prop where
  reads : bodyReads (V25.message h).tailOffset d.log = (packedBody env packet h).packedReads unitReads
  filled : d.log.filterMap filledSlot =
    List.range' (frame.packetNum * h.getBlockNum * h.getLaserNum) d.val.frame.perPointsNum
  perPointsNum : d.val.frame.perPointsNum = h.getBlockNum * h.getLaserNum
  slot : ∀ b < h.getBlockNum, ∀ s < h.getSeqNum, ∀ u < h.getLaserNum / h.getSeqNum,
    let record := 13 + b * (2 + h.getSeqNum * (5 + 3 * (h.getLaserNum / h.getSeqNum))) + 2 +
      s * (5 + 3 * (h.getLaserNum / h.getSeqNum))
    let k := frame.packetNum * h.getBlockNum * h.getLaserNum + ((b * h.getSeqNum + s) *
      (h.getLaserNum / h.getSeqNum) + u)
    d.val.frame.pointData k =
      { frame.pointData k with
        reflectivities := byteAt env packet (record + 5 + 3 * u + 2)
        distances := (readU16 env packet (record + 5 + 3 * u)).val
        azimuth := (readI16 env packet record).val / 512
        elevation := (readI16 env packet (record + 2)).val / 512
        mirrorIndex := byteAt env packet (V25.mirrorIndexOffset h) }
  tail : (V25.message h).tailOffset = (packedBody env packet h).unitOffset (h.getBlockNum - 1) (h.getSeqNum - 1)
    (h.getLaserNum / h.getSeqNum) + 4
  shutDown : d.val.frame.workMode = (byteAt env packet ((V25.message h).tailOffset + 10)).toNat
  frameId : d.val.parser.lastFrameid = (byteAt env packet ((V25.message h).tailOffset + 9)).toNat

variable {env packet h frame} {p : EtParser Corrections}

variable (env packet) in
lemma slot_of_walk {b s u : ℕ} (hb : b < h.getBlockNum) (hs : s < h.getSeqNum)
    (hu : u < h.getLaserNum / h.getSeqNum) (index : ℕ) (slots : ℕ → PointDecodeData) :
    ((packedBody env packet h).walk env packet index slots).val (index + (packedBody env packet h).unitNumber b s u) =
      ((packedBody env packet h).unitAt env packet b s u
        (slots (index + (packedBody env packet h).unitNumber b s u))).val := by
  have hlast : (packedBody env packet h).unitNumber b s u <
      (packedBody env packet h).unitNumber (packedBody env packet h).blockNum 0 0 := by
    have hseq : (b * h.getSeqNum + s) + 1 ≤ h.getBlockNum * h.getSeqNum := by
      have hblock : (b + 1) * h.getSeqNum ≤ h.getBlockNum * h.getSeqNum := Nat.mul_le_mul_right _ hb
      rw [Nat.succ_mul] at hblock
      omega
    have hunits := Nat.mul_le_mul_right (h.getLaserNum / h.getSeqNum) hseq
    rw [Nat.succ_mul] at hunits
    simp only [EtBody.unitNumber, EtBody.perSeq, packedBody, body, Nat.add_zero]
    omega
  rw [EtBody.walk_eq]
  exact (fillTo_cell hlast).trans (EtBody.cell_unitNumber hs hu _)

variable (frame) in
lemma decodePacket_log (hc : p.getCorrectionFile = true) (hd : Delimited env packet)
    (hsize : V25.sizeSum (EtHeader.headerAt env packet) < 65536) :
    ∃ before after : List DecodeEvent, (decodePacket env packet p frame).log =
      before ++ ((packedBody env packet (EtHeader.headerAt env packet)).walk env packet (frame.packetNum *
        (EtHeader.headerAt env packet).getBlockNum * (EtHeader.headerAt env packet).getLaserNum)
        frame.pointData).log ++ after ∧
      (∀ e ∈ before, (outsideBody (V25.message (EtHeader.headerAt env packet)).tailOffset).Allows e) ∧
      ∀ e ∈ after, (outsideBody (V25.message (EtHeader.headerAt env packet)).tailOffset).Allows e := by
  set h := EtHeader.headerAt env packet with hh
  have haround : EtParser.Around env packet (V25.message h) p frame (outsideBody (V25.message h).tailOffset).Allows :=
    outside_around hsize
  obtain ⟨before, after, hlog, hbefore, hafter⟩ :=
    haround.log (walk env packet h (frame.packetNum * h.getBlockNum * h.getLaserNum))
  have hdelimiter : AllLog (outsideBody (V25.message h).tailOffset).Allows (hasDelimiter env packet) :=
    allows_hasDelimiter (Or.inl (by decide)) (Or.inl (by decide))
  have hread : AllLog (outsideBody (V25.message h).tailOffset).Allows (EtHeader.read env packet) := by
    have hlow (o : ℕ) (ho : o < 13) : AllLog (outsideBody (V25.message h).tailOffset).Allows (readU8 env packet o) :=
      allows_readU8.mpr (Or.inl ho)
    simp only [EtHeader.read, allLog_bind, allLog_pure, and_true]
    exact ⟨hlow 6 (by decide), hlow 7 (by decide), hlow 9 (by decide), hlow 11 (by decide), hlow 12 (by decide)⟩
  have hmirror : AllLog (outsideBody (V25.message h).tailOffset).Allows (readU8 env packet (V25.mirrorIndexOffset h)) :=
    allows_readU8.mpr (Or.inr (Nat.le_add_right _ _))
  refine ⟨(hasDelimiter env packet).log ++ (EtHeader.read env packet).log ++ before ++
    (readU8 env packet (V25.mirrorIndexOffset h)).log, after, ?_, ?_, hafter⟩
  · have hval : (EtHeader.read env packet).val = h := rfl
    rw [decodePacket, EtParser.guarded_log hc hd, log_bind, hval, hlog, walk, log_bind]
    simp only [List.append_assoc, readU8_val]
  · intro e he
    simp only [List.mem_append] at he
    rcases he with ((he | he) | he) | he
    · exact hdelimiter e he
    · exact hread e he
    · exact hbefore e he
    · exact hmirror e he

variable (frame) in
lemma decodePacket_val (hc : p.getCorrectionFile = true) (hd : Delimited env packet) :
    (decodePacket env packet p frame).val = (EtParser.decodeMessage env packet
      (V25.message (EtHeader.headerAt env packet)) p frame (walk env packet (EtHeader.headerAt env packet)
        (frame.packetNum * (EtHeader.headerAt env packet).getBlockNum *
          (EtHeader.headerAt env packet).getLaserNum))).val := by
  have hval : (EtHeader.read env packet).val = EtHeader.headerAt env packet := rfl
  rw [decodePacket, EtParser.guarded_val, if_pos ⟨hc, hd⟩, val_bind, hval]

lemma decodePacket_ret : (decodePacket env packet p frame).val.ret = 0 ↔
    p.getCorrectionFile = true ∧ Delimited env packet :=
  EtParser.guarded_ret rfl

end Layout

/-- The body is read where it is packed, each announced slot is filled once and in order, and the tail that is found
from the end of the packet follows the body and its checksum. -/
theorem decodePacket_layout {Corrections Pt : Type} (env : Environment) (packet : UdpPacket)
    (p : EtParser Corrections) (frame : LidarDecodedFrame Pt)
    (hret : (decodePacket env packet p frame).val.ret = 0)
    (hblocks : 1 ≤ (EtHeader.headerAt env packet).getBlockNum)
    (hseqs : 1 ≤ (EtHeader.headerAt env packet).getSeqNum)
    (hdvd : (EtHeader.headerAt env packet).getSeqNum ∣ (EtHeader.headerAt env packet).getLaserNum)
    (hsize : V25.sizeSum (EtHeader.headerAt env packet) < 65536) :
    MeetsLayout env packet (EtHeader.headerAt env packet) frame (decodePacket env packet p frame) := by
  obtain ⟨hc, hd⟩ := decodePacket_ret.mp hret
  obtain ⟨before, after, hlog, hbefore, hafter⟩ := decodePacket_log frame hc hd hsize
  obtain ⟨hreads, hfilled⟩ := outsideBody_nil hbefore
  obtain ⟨hreads', hfilled'⟩ := outsideBody_nil hafter
  have hval := decodePacket_val frame hc hd
  set h := EtHeader.headerAt env packet
  have hper : (decodePacket env packet p frame).val.frame.perPointsNum = h.getBlockNum * h.getLaserNum := by
    rw [hval, EtParser.decodeMessage_perPointsNum]
    rfl
  constructor
  case reads =>
    rw [hlog, bodyReads_append, bodyReads_append, hreads, hreads', List.nil_append, List.append_nil, bodyReads,
      EtBody.walk_reads writeUnit_log, List.filter_eq_self]
    intro o ho
    obtain ⟨hlow, hhigh⟩ := packedReads_inside ho
    have htail := tailOffset_eq env packet (byteAt env packet (V25.mirrorIndexOffset h)) hsize
    simp only [decide_eq_true_eq]
    omega
  case filled =>
    have hlasers : h.getSeqNum * (h.getLaserNum / h.getSeqNum) = h.getLaserNum := Nat.mul_div_cancel' hdvd
    rw [hlog, List.filterMap_append, List.filterMap_append, hfilled, hfilled', List.nil_append, List.append_nil,
      EtBody.walk_filled writeUnit_log, hper]
    exact congrArg (fun n => List.range' _ (h.getBlockNum * n)) hlasers
  case perPointsNum => exact hper
  case slot =>
    intro b hb s hs u hu
    have hslot := slot_of_walk env packet hb hs hu (frame.packetNum * h.getBlockNum * h.getLaserNum) frame.pointData
    simp only [EtBody.unitAt, packedBody, body, val_bind, val_pure, readU8_val] at hslot
    rw [hval, EtParser.decodeMessage_pointData, walk, val_bind, readU8_val]
    exact hslot
  case tail =>
    rw [tailOffset_eq env packet _ hsize]
    exact congrArg (· + 4) (EtBody.unitOffset_last hblocks hseqs).symm
  case shutDown => rw [hval, EtParser.decodeMessage_workMode, EtMessage.shutDownOffset]
  case frameId => rw [hval, EtParser.decodeMessage_lastFrameid, EtMessage.frameIdOffset]

theorem decodePacket_layout_64 : V25.sizeSum (EtHeader.headerAt default (etPacket 8)) = 314 ∧
    MeetsLayout default (etPacket 8) (EtHeader.headerAt default (etPacket 8)) (default : LidarDecodedFrame ℕ)
      (decodePacket default (etPacket 8) loadedEtParser default) := by
  have hsize : V25.sizeSum (EtHeader.headerAt default (etPacket 8)) = 314 := by decide
  refine ⟨hsize, decodePacket_layout default (etPacket 8) loadedEtParser default ?_ (by decide) (by decide)
    (by decide) ?_⟩
  · exact decodePacket_ret.mpr ⟨rfl, by decide⟩
  · omega

end Udp25Parser

end HesaiSdk.Parsing
