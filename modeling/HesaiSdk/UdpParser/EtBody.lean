import HesaiSdk.UdpParser.EtParser

/-! The walks over the bodies of the ET messages. -/

namespace HesaiSdk.Parsing

open Library Library.BlockWalk Lidar UdpProtocol

/-- `pSeq2` or `pSeq3`, `pUnit`, `index` and the slots. -/
structure EtCursor where
  seq : ℕ
  unit : ℕ
  index : ℕ
  slots : ℕ → PointDecodeData

/-- The body of the 2.4 and 2.5 messages: blocks of a point id and of sequences, each an angle record and units. -/
structure EtBody where
  seqSize : ℕ
  unitSize : ℕ
  laserNum : ℕ
  blockNum : ℕ
  seqNum : ℕ
  writeUnit : ℚ → ℚ → ℕ → PointDecodeData → Logged DecodeEvent PointDecodeData

namespace EtBody

variable (env : Environment) (packet : UdpPacket) (body : EtBody)

def sizeofPointId : ℕ := 2

def firstSeq : ℕ := 6 + 7 + sizeofPointId

/-- `pHeader->GetLaserNum() / pHeader->GetSeqNum()` -/
def unitsPerSeq : Logged DecodeEvent ℕ := do
  note (.divide body.seqNum)
  pure (body.laserNum / body.seqNum)

def unitStep (azimuth elevation : ℚ) (_ : ℕ) (c : EtCursor) : Logged DecodeEvent EtCursor := do
  let slot ← body.writeUnit azimuth elevation c.unit (c.slots c.index)
  note (.pointData c.index)
  pure { c with
    unit := c.unit + body.unitSize
    index := c.index + 1
    slots := Function.update c.slots c.index slot }

def seqStep (_ : ℕ) (c : EtCursor) : Logged DecodeEvent EtCursor := do
  let horizontalAngle ← readI16 env packet c.seq
  let verticalAngle ← readI16 env packet (c.seq + 2)
  let units ← body.unitsPerSeq
  let filled ← loop (body.unitStep (horizontalAngle / 512) (verticalAngle / 512)) units c
  let units ← body.unitsPerSeq
  let seq := filled.seq + (body.seqSize + body.unitSize * units)
  pure { filled with seq := seq, unit := seq + body.seqSize }

def blockStep (_ : ℕ) (c : EtCursor) : Logged DecodeEvent EtCursor := do
  let walked ← loop (body.seqStep env packet) body.seqNum c
  pure { walked with seq := walked.seq + sizeofPointId, unit := walked.unit + sizeofPointId }

def walk (index : ℕ) (slots : ℕ → PointDecodeData) : Logged DecodeEvent (ℕ → PointDecodeData) := do
  let walked ← loop (body.blockStep env packet) body.blockNum ⟨firstSeq, firstSeq + body.seqSize, index, slots⟩
  pure walked.slots

end EtBody

namespace Udp24Parser

variable (env : Environment) (packet : UdpPacket) (h : EtHeader)

def body : EtBody where
  seqSize := V24.sizeofSeq2
  unitSize := V24.sizeofLasterUnit
  laserNum := h.getLaserNum
  blockNum := h.getBlockNum
  seqNum := h.getSeqNum
  writeUnit azimuth elevation o slot := do
    let reflectivity ← readU8 env packet (o + 2)
    let confidence ← readU8 env packet (o + 3)
    let distance ← readU16 env packet o
    pure { slot with
      reflectivities := reflectivity
      confidence := confidence
      distances := distance
      azimuth := azimuth
      elevation := elevation }

variable {Corrections Pt : Type} (p : EtParser Corrections) (frame : LidarDecodedFrame Pt)

def decodePacket : Logged DecodeEvent (Decoded (EtParser Corrections) Pt) :=
  EtParser.guarded env packet p frame do
    let h ← EtHeader.read env packet
    EtParser.decodeMessage env packet (V24.message h) p frame
      ((body env packet h).walk env packet (frame.packetNum * h.getBlockNum * h.getLaserNum))

end Udp24Parser

namespace Udp25Parser

variable (env : Environment) (packet : UdpPacket) (h : EtHeader)

def body (mirrorIndex : UInt8) : EtBody where
  seqSize := V25.sizeofSeq3
  unitSize := V25.sizeofLasterUnit
  laserNum := h.getLaserNum
  blockNum := h.getBlockNum
  seqNum := h.getSeqNum
  writeUnit azimuth elevation o slot := do
    let reflectivity ← readU8 env packet (o + 2)
    let distance ← readU16 env packet o
    pure { slot with
      reflectivities := reflectivity
      distances := distance
      azimuth := azimuth
      elevation := elevation
      mirrorIndex := mirrorIndex }

def walk (index : ℕ) (slots : ℕ → PointDecodeData) : Logged DecodeEvent (ℕ → PointDecodeData) := do
  let mirrorIndex ← readU8 env packet (V25.mirrorIndexOffset h)
  (body env packet h mirrorIndex).walk env packet index slots

variable {Corrections Pt : Type} (p : EtParser Corrections) (frame : LidarDecodedFrame Pt)

def decodePacket : Logged DecodeEvent (Decoded (EtParser Corrections) Pt) :=
  EtParser.guarded env packet p frame do
    let h ← EtHeader.read env packet
    EtParser.decodeMessage env packet (V25.message h) p frame
      (walk env packet h (frame.packetNum * h.getBlockNum * h.getLaserNum))

end Udp25Parser

namespace Udp26Parser

open V26

/-- `pSeq2`, `pUnit1`, `pUnit2`, `index_unit`, `index_unit2` and the slots. -/
structure Cursor where
  seq : ℕ
  unit1 : ℕ
  unit2 : ℕ
  indexUnit : ℕ
  indexUnit2 : ℕ
  slots : ℕ → PointDecodeData

variable (env : Environment) (packet : UdpPacket) (h : Header)

def sizeofPointId : ℕ := 2

def firstSeq : ℕ := 6 + 8 + sizeofPointId

def unitsPerSeq : Logged DecodeEvent ℕ := do
  note (.divide h.getSeqNum)
  pure (h.getLaserNum / h.getSeqNum)

/-- The channel of a unit of the first return is its number in the sequence. -/
def writeUnit1 (azimuth elevation : ℚ) (unitId o : ℕ) (slot : PointDecodeData) :
    Logged DecodeEvent PointDecodeData := do
  let reflectivity ← readU8 env packet (o + 2)
  let distance ← readU16 env packet o
  pure { slot with
    reflectivities := reflectivity
    distances := distance
    azimuth := azimuth
    elevation := elevation
    chnIndex := unitId.toUInt8 }

def writeUnit2 (azimuth elevation : ℚ) (o : ℕ) (slot : PointDecodeData) : Logged DecodeEvent PointDecodeData := do
  let reflectivity ← readU8 env packet (o + 3)
  let distance ← readU16 env packet (o + 1)
  let chnIndex ← readU8 env packet o
  pure { slot with
    reflectivities := reflectivity
    distances := distance
    azimuth := azimuth
    elevation := elevation
    chnIndex := chnIndex }

def unitStep1 (azimuth elevation : ℚ) (unitId : ℕ) (c : Cursor) : Logged DecodeEvent Cursor := do
  let slot ← writeUnit1 env packet azimuth elevation unitId c.unit1 (c.slots c.indexUnit)
  note (.pointData c.indexUnit)
  pure { c with
    unit1 := c.unit1 + sizeofLasterUnit1
    indexUnit := c.indexUnit + 1
    slots := Function.update c.slots c.indexUnit slot }

def unitStep2 (azimuth elevation : ℚ) (_ : ℕ) (c : Cursor) : Logged DecodeEvent Cursor := do
  let slot ← writeUnit2 env packet azimuth elevation c.unit2 (c.slots c.indexUnit2)
  note (.pointData c.indexUnit2)
  pure { c with
    unit2 := c.unit2 + sizeofLasterUnit2
    indexUnit2 := c.indexUnit2 + 1
    slots := Function.update c.slots c.indexUnit2 slot }

def seqStep (_ : ℕ) (c : Cursor) : Logged DecodeEvent Cursor := do
  let horizontalAngle ← readI16 env packet c.seq
  let verticalAngle ← readI16 env packet (c.seq + 2)
  let units ← unitsPerSeq h
  let first ← loop (unitStep1 env packet (horizontalAngle / 512) (verticalAngle / 512)) units c
  let second ← loop (unitStep2 env packet (horizontalAngle / 512) (verticalAngle / 512)) h.getSecRetNum first
  let units ← unitsPerSeq h
  let seq := second.seq + (sizeofSeq2 + sizeofLasterUnit1 * units + sizeofLasterUnit2 * h.getSecRetNum)
  let units ← unitsPerSeq h
  pure { second with
    seq := seq
    unit1 := seq + sizeofSeq2
    unit2 := seq + sizeofSeq2 + sizeofLasterUnit1 * units }

def walk (index : ℕ) (slots : ℕ → PointDecodeData) : Logged DecodeEvent (ℕ → PointDecodeData) := do
  let units ← unitsPerSeq h
  let walked ← loop (seqStep env packet h) h.getSeqNum
    { seq := firstSeq
      unit1 := firstSeq + sizeofSeq2
      unit2 := firstSeq + sizeofSeq2 + sizeofLasterUnit1 * units
      indexUnit := index
      indexUnit2 := index + h.getLaserNum
      slots := slots }
  pure walked.slots

variable {Corrections Pt : Type} (p : EtParser Corrections) (frame : LidarDecodedFrame Pt)

def decodePacket : Logged DecodeEvent (Decoded (EtParser Corrections) Pt) :=
  EtParser.guarded env packet p frame do
    let h ← Header.read env packet
    EtParser.decodeMessage env packet h.message p frame
      (walk env packet h (frame.packetNum * (h.getLaserNum + h.getSecRetNum * h.getSeqNum) * h.getBlockNum))

end Udp26Parser

end HesaiSdk.Parsing
