import HesaiSdk.Library.BlockWalk
import HesaiSdk.Library.BufferRead
import HesaiSdk.UdpParser.ComputeForm
import HesaiSdk.UdpParser.Correction
import HesaiSdk.UdpParser.Parser
import HesaiSdk.UdpParser.Udp43Correction
import HesaiSdk.UdpProtocol.V72

/-! The parser of the FT120, which looks up the angles of a column while it decodes. -/

namespace HesaiSdk.Parsing

open Library Library.BlockWalk Library.BufferRead Library.TextStream Lidar UdpProtocol UdpProtocol.V72

def CHANNEL_MAX : ℤ := 256

def COLUMN_MAX : ℤ := 384

structure PandarFTCorrectionsHeader where
  columnNumber : ℕ
  channelNumber : ℕ
  resolution : ℕ

namespace PandarFTCorrectionsHeader

def sizeofHeader : ℕ := 9

def read (data : CorrectionData) : PandarFTCorrectionsHeader :=
  ⟨(data 6).toNat, (data 7).toNat, (data 8).toNat⟩

variable (h : PandarFTCorrectionsHeader)

def angleNum : ℕ := h.columnNumber * h.channelNumber

end PandarFTCorrectionsHeader

/-- The tables, by channel and column. -/
structure PandarFTCorrections where
  elevations : ℕ → ℕ → ℚ
  azimuths : ℕ → ℕ → ℚ
deriving Inhabited

namespace PandarFTCorrections

variable (c : PandarFTCorrections)

/-- The rows of the file are columns of the tables. -/
def fillTable (h : PandarFTCorrectionsHeader) (angles : ℕ → ℤ) (first : ℕ) (old : ℕ → ℕ → ℚ) (col row : ℕ) : ℚ :=
  if row < h.columnNumber ∧ col < h.channelNumber
  then angles (first + row * h.channelNumber + col) * h.resolution else old col row

def copyFile (h : PandarFTCorrectionsHeader) (angles : ℕ → ℤ) : PandarFTCorrections where
  azimuths := fillTable h angles 0 c.azimuths
  elevations := fillTable h angles h.angleNum c.elevations

def storeRow (lineId columnId : ℤ) (elev azimuth : ℚ) : PandarFTCorrections :=
  let line := (lineId - 1).toNat
  let column := (columnId - 1).toNat
  { elevations := Function.update c.elevations line
      (Function.update (c.elevations line) column (elev * kResolutionInt))
    azimuths := Function.update c.azimuths line
      (Function.update (c.azimuths line) column (azimuth * kResolutionInt)) }

/-- A line that is long enough. A field that is missing is read as the last one again. -/
def readLine (memory : LoadMemory) (lineCounter : ℕ) (line : List Char) : PandarFTCorrections :=
  let lineId := (readInt (nthGetline ',' line 0)).getD 0
  let columnId := (readInt (nthGetline ',' line 1)).getD 0
  let elev := (readFloat (nthGetline ',' line 2)).getD (memory.elevation lineCounter)
  let azimuth := (readFloat (nthGetline ',' line 3)).getD (memory.azimuth lineCounter)
  if CHANNEL_MAX < lineId ∨ lineId ≤ 0 ∨ COLUMN_MAX < columnId ∨ columnId ≤ 0 then c
  else c.storeRow lineId columnId elev azimuth

/-- The loop over the lines, which ends at one shorter than `1,1,1,1`. -/
def readLines (memory : LoadMemory) (lineCounter : ℕ) (c : PandarFTCorrections) :
    List (List Char) → PandarFTCorrections × ℤ
  | [] => (c, 0)
  | line :: lines =>
    if line.length < 7 then (c, -1)
    else readLines memory (lineCounter + 1) (c.readLine memory (lineCounter + 1) line) lines

end PandarFTCorrections

structure Udp72Parser extends GeneralParser where
  corrections : PandarFTCorrections
  lastCloumnId : ℤ

namespace Udp72Parser

instance : Inhabited Udp72Parser := ⟨⟨default, default, -1⟩⟩

/-- Version 0 takes its angles from the start of the file, header and all. -/
def loadCorrectionDatData (data : CorrectionData) (p : Udp72Parser) : Udp72Parser × ℤ :=
  let h := PandarFTCorrectionsHeader.read data
  let loaded (angles : ℕ → ℤ) : Udp72Parser × ℤ := ({ p with
    getCorrectionFile := true
    corrections := p.corrections.copyFile h angles }, 0)
  if data.isDelimited then
    if data.version = 0 then loaded fun idx => data.int16At (2 * idx)
    else if data.version = 1 then loaded fun idx => data.int32At (PandarFTCorrectionsHeader.sizeofHeader + 4 * idx)
    else (p, -1)
  else (p, -1)

/-- What has been stored before a line that is too short stays. -/
def loadCorrectionCsvData (stack : LoadMemory) (text : List Char) (p : Udp72Parser) : Udp72Parser × ℤ :=
  match p.corrections.readLines stack 0 (getlines '\n' text).tail with
  | (corrections, 0) => ({ p with
      getCorrectionFile := true
      corrections := corrections }, 0)
  | (corrections, ret) => ({ p with corrections := corrections }, ret)

def loadCorrectionString (stack : LoadMemory) (memory : List UInt8) (p : Udp72Parser) :
    Option (Udp72Parser × ℤ) :=
  let (q, ret) := p.loadCorrectionDatData (memoryAt memory)
  if ret = 0 then some (q, 0) else (cString memory).map fun text => q.loadCorrectionCsvData stack text

def isNeedFrameSplit (p : Udp72Parser) (columnId : UInt16) : Bool := decide ((columnId.toNat : ℤ) < p.lastCloumnId)

section Decode

variable (env : Environment) (packet : UdpPacket) (h : Header) {Pt : Type} (p : Udp72Parser)
  (frame : LidarDecodedFrame Pt)

def bodyReader (columnId : UInt16) : BlockReader DecodeEvent PointDecodeData Unit Unit where
  headSize := 0
  unitSize := sizeofBodyChnUnit
  readHead _ _ := pure ()
  writeUnit _ i o slot := do
    note (.correction i columnId.toNat)
    let reflectivity ← getReflectivity env packet o
    let distance ← getDistance env packet o
    pure { slot with
      azimuth := p.corrections.azimuths i columnId.toNat
      elevation := p.corrections.elevations i columnId.toNat
      reflectivities := reflectivity
      distances := distance }
  written := .pointData
  finishBlock _ _ := ()

/-- The frame is cut by the column alone, whether `use_angle_` is set or not. -/
def decodeBody : Logged DecodeEvent (Decoded Udp72Parser Pt) := do
  let stamped ← storeSensorTimestamp frame packet.recvTimestamp (getMicroLidarTime env packet h.tailOffset)
  let packetSeqnum ← readSequenceNum env packet h.tailOffset
  note (.packetLoss packetSeqnum)
  let counted := p.calPktLoss env packetSeqnum
  let packetTimestamp ← getMicroLidarTime env packet h.tailOffset
  let timed := counted.calPktTimeLoss env packetTimestamp
  let columnId ← readColumnId env packet h.tailOffset
  let body ← (bodyReader env packet p columnId).walk h.getChannelNum 1
    (⟨Header.bodyOffset, frame.packetNum * h.getChannelNum, frame.pointData⟩, ())
  pure ⟨0, { p with
      toGeneralParser := timed.tick
      lastCloumnId := columnId.toNat },
    { stamped with
      hostTimestamp := timed.getMicroTickCountU64 env
      perPointsNum := h.getChannelNum
      scanComplete := p.isNeedFrameSplit columnId
      distanceUnit := h.getDistUnit
      blockNum := 1
      laserNum := h.getChannelNum
      pointData := body.1.slots
      packetNum := frame.packetNum + 1 }⟩

def decodePacket : Logged DecodeEvent (Decoded Udp72Parser Pt) :=
  if p.getCorrectionFile = false then reject p frame
  else afterDelimiter env packet p frame do
    let h ← readHeader env packet
    decodeBody env packet h p frame

lemma decodePacket_val : (p.decodePacket env packet frame).val =
    if p.getCorrectionFile = true ∧ Delimited env packet
    then (decodeBody env packet (headerAt env packet) p frame).val else ⟨-1, p, frame⟩ := by
  rw [decodePacket, afterTests_val, val_bind, headerAt]

variable {env packet p frame} in
lemma decodePacket_ret : (p.decodePacket env packet frame).val.ret = 0 ↔
    p.getCorrectionFile = true ∧ Delimited env packet := by
  rw [decodePacket]
  exact afterTests_ret rfl

/-- The first loop has the angles of the whole frame, the tables are not looked at any more. -/
def pointAngles (data : PointDecodeData) : ℤ × ℤ :=
  if p.getCorrectionFile then
    ((circle + truncate (data.azimuth * kFineResolutionFloat)).tmod circle,
      (circle + truncate (data.elevation * kFineResolutionFloat)).tmod circle)
  else (0, 0)

def computeXYZI [Point Pt] (packetIndex : ℕ) : Logged DecodeEvent (ℕ → Pt) :=
  let base := packetIndex * frame.perPointsNum
  fillRow .point base frame.laserNum (fun i =>
    let data := frame.pointData (base + i)
    let angles := p.pointAngles data
    p.fillPlainPoint env frame.config data (frame.sensorTimestamp packetIndex)
      (data.distances.toNat * frame.distanceUnit) angles.1 angles.2 i) frame.points

end Decode

end Udp72Parser

end HesaiSdk.Parsing
