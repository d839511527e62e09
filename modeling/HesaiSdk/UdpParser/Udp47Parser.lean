import HesaiSdk.UdpParser.Udp43Correction
import HesaiSdk.UdpProtocol.V47

namespace HesaiSdk.Parsing

open Library Library.BlockWalk Lidar UdpProtocol UdpProtocol.V47

def atxLaserNum : ℕ := 512

structure ATXCorrectionsHeader where
  version : UInt8
  channelNumber : ℕ
  angleDivision : ℕ

namespace ATXCorrectionsHeader

def sizeofHeader : ℕ := 9

def read (data : CorrectionData) : ATXCorrectionsHeader := ⟨data 3, (data 6).toNat, data.uint16At 7⟩

variable (h : ATXCorrectionsHeader)

def known : Bool := h.version == 1 || h.version == 2 || h.version == 3

def refused : Bool := decide (atxLaserNum < h.channelNumber ∨ h.angleDivision = 0)

def tableOffset (table : ℕ) : ℕ := sizeofHeader + 2 * (h.channelNumber * table)

lemma tableOffset_succ (table : ℕ) : h.tableOffset (table + 1) = h.tableOffset table + 2 * h.channelNumber := by
  rw [tableOffset, tableOffset]
  ring

end ATXCorrectionsHeader

/-- The tables of `ATXCorrections`; of the raw ones those that decoding reads. -/
structure ATXCorrections where
  version : UInt8
  angleDivision : ℕ
  rawAzimuthsEven : ℕ → ℤ
  rawAzimuthsOdd : ℕ → ℤ
  azimuth : ℕ → ℚ
  azimuthEven : ℕ → ℚ
  azimuthOdd : ℕ → ℚ
  elevation : ℕ → ℚ
  elevationAdjusts : ℕ → ℚ
deriving Inhabited

namespace ATXCorrections

def kBegElevationAdjust : ℚ := 20

def kStepElevationAdjust : ℚ := 2

def kLenElevationAdjust : ℕ := 70

def getEndElevationAdjust : ℚ := kBegElevationAdjust + kStepElevationAdjust * (kLenElevationAdjust - 1)

section Adjust

variable (c : ATXCorrections)

/-- `azimuth` is in 1/25600 degrees. -/
def elevationAdjust (azimuth : ℤ) : ℚ :=
  let azimuthAngle : ℚ := ((circle + azimuth).tmod circle : ℤ) / kAllFineResolutionFloat
  if azimuthAngle < kBegElevationAdjust ∨ getEndElevationAdjust < azimuthAngle then 0
  else
    let index := (truncate ((azimuthAngle - kBegElevationAdjust) / kStepElevationAdjust)).toNat
    if index = kLenElevationAdjust - 1 then c.elevationAdjusts index
    else
      let leftPercent := (azimuthAngle - kBegElevationAdjust - index * kStepElevationAdjust) / kStepElevationAdjust
      c.elevationAdjusts index * (1 - leftPercent) + c.elevationAdjusts (index + 1) * leftPercent

end Adjust

section Load

variable (data : CorrectionData) (h : ATXCorrectionsHeader) (c : ATXCorrections)

def angleAt (table i : ℕ) : ℚ := data.int16At (h.tableOffset table + 2 * i) / h.angleDivision

def storeHeader : ATXCorrections :=
  { c with
    version := h.version
    angleDivision := h.angleDivision }

def copyVersion1 : ATXCorrections :=
  { c with
    azimuth := setFirst h.channelNumber (angleAt data h 0) c.azimuth
    elevation := setFirst h.channelNumber (angleAt data h 1) c.elevation }

def copyVersion2 : ATXCorrections :=
  { c with
    rawAzimuthsEven := setFirst h.channelNumber (fun i => data.int16At (h.tableOffset 0 + 2 * i)) c.rawAzimuthsEven
    rawAzimuthsOdd := setFirst h.channelNumber (fun i => data.int16At (h.tableOffset 1 + 2 * i)) c.rawAzimuthsOdd
    azimuthEven := setFirst h.channelNumber (angleAt data h 0) c.azimuthEven
    azimuthOdd := setFirst h.channelNumber (angleAt data h 1) c.azimuthOdd
    elevation := setFirst h.channelNumber (angleAt data h 2) c.elevation }

def copyVersion3 : ATXCorrections :=
  { copyVersion2 data h c with
    elevationAdjusts := setFirst kLenElevationAdjust (angleAt data h 3) c.elevationAdjusts }

def copyFile : ATXCorrections :=
  if h.version = 1 then copyVersion1 data h c
  else if h.version = 2 then copyVersion2 data h c
  else copyVersion3 data h c

end Load

end ATXCorrections

structure ATXFiretimesHeader where
  delimiter : UInt8 × UInt8
  version : UInt8 × UInt8
  reserved1 : UInt8
  reserved2 : UInt8
  channelNumber : UInt8
  angleDivision : UInt16
deriving Inhabited

structure ATXFiretimes where
  header : ATXFiretimesHeader
  rawEvenFiretimeCorrection : ℕ → UInt16
  rawOddFiretimeCorrection : ℕ → UInt16
  evenFiretimeCorrection : ℕ → ℚ
  oddFiretimeCorrection : ℕ → ℚ
  shaValue : ℕ → UInt8
deriving Inhabited

/-- As for the AT128, `getCorrectionFile` stands for the parser's own flag. -/
structure Udp47Parser extends GeneralParser where
  corrections : ATXCorrections
  firetimes : ATXFiretimes
  lastFrameid : ℤ

namespace Udp47Parser

instance : Inhabited Udp47Parser := ⟨⟨default, default, default, -1⟩⟩

/-- The header is stored before it is checked. -/
def loadCorrectionString (data : CorrectionData) (p : Udp47Parser) : Udp47Parser × ℤ :=
  let header := ATXCorrectionsHeader.read data
  if data.isDelimited ∧ header.known then
    let committed := p.corrections.storeHeader header
    if header.refused then ({ p with corrections := committed }, -1)
    else
      ({ p with
          getCorrectionFile := true
          corrections := committed.copyFile data header }, 0)
  else (p, -1)

lemma loadCorrectionString_cases (data : CorrectionData) (p : Udp47Parser) :
    let h := ATXCorrectionsHeader.read data
    (¬(data.isDelimited = true ∧ h.known = true) ∧ p.loadCorrectionString data = (p, -1)) ∨
    ((data.isDelimited = true ∧ h.known = true) ∧ h.refused = true ∧
      p.loadCorrectionString data = ({ p with corrections := p.corrections.storeHeader h }, -1)) ∨
    ((data.isDelimited = true ∧ h.known = true) ∧ h.refused = false ∧
      p.loadCorrectionString data = ({ p with
        getCorrectionFile := true
        corrections := (p.corrections.storeHeader h).copyFile data h }, 0)) := by
  intro h
  rw [loadCorrectionString]
  exact checkedFile_cases

def isNeedFrameSplit (p : Udp47Parser) (frameId : UInt8) : Bool :=
  decide ((frameId.toNat : ℤ) ≠ p.lastFrameid ∧ 0 ≤ p.lastFrameid)

section Decode

variable (env : Environment) (packet : UdpPacket) (h : Header) {Pt : Type} (p : Udp47Parser)
  (frame : LidarDecodedFrame Pt)

structure BlockCut where
  useAngle : Bool
  lastFrameid : ℤ
  lastAzimuth : ℤ
  scanComplete : Bool

/-- With an angle division of 0 the source converts an infinite `float` to `int`; the quotient is 0 here. -/
def blockAzimuth (u16Azimuth : UInt16) : ℤ :=
  truncate (u16Azimuth.toNat * (kAllFineResolutionFloat / p.corrections.angleDivision))

/-- The azimuth of a unit; `old` stays where the version is none of the three. -/
def unitAzimuth (azimuth : ℤ) (frameId : UInt8) (motorSpeed : UInt16) (i : ℕ) (old : ℚ) : ℚ :=
  let c := p.corrections
  let even : Bool := frameId % 2 == 0
  let corrected : ℚ :=
    if c.version = 1 then azimuth + c.azimuth i * kAllFineResolutionFloat
    else if c.version = 2 ∨ c.version = 3 then
      azimuth + (if even then c.rawAzimuthsEven i else c.rawAzimuthsOdd i : ℤ) * kAllFineResolutionFloat /
        c.angleDivision
    else old
  if p.getFiretimeFile then
    corrected + (if even then p.firetimes.evenFiretimeCorrection i else -p.firetimes.oddFiretimeCorrection i) *
      (|(motorSpeed.toNat : ℤ).bmod (2 ^ 16)| * (1 / 1000000000) / 8) * kAllFineResolutionFloat
  else corrected

def bodyReader (frameId : UInt8) (motorSpeed : UInt16) :
    BlockReader DecodeEvent PointDecodeData UInt16 BlockCut where
  headSize := sizeofBodyAzimuth + sizeofBodyFineAzimuth
  unitSize := sizeofBodyChnUnit
  readHead _ o := readU16 env packet o
  writeUnit head j o slot := do
    let unit ← readChnUnit env packet o
    pure { slot with
      azimuth := p.unitAzimuth (p.blockAzimuth head) frameId motorSpeed j slot.azimuth
      distances := unit.distance
      reflectivities := unit.reflectivity
      confidence := unit.confidence }
  written := .pointData
  finishBlock head cut :=
    let split := cut.useAngle && isNeedFrameSplit { p with lastFrameid := cut.lastFrameid } (frameId % 2)
    ⟨true, (frameId % 2).toNat, head.toNat, cut.scanComplete || split⟩

def countSeqNum (g : GeneralParser) : Logged DecodeEvent GeneralParser :=
  if h.hasSeqNum then do
    let packetSeqnum ← readU32 env packet h.seqNumOffset
    note (.packetLoss packetSeqnum)
    pure (g.calPktLoss env packetSeqnum)
  else pure g

def decodeBody : Logged DecodeEvent (Decoded Udp47Parser Pt) := do
  let counted ← countSeqNum env packet h p.toGeneralParser
  let packetTimestamp ← getMicroLidarTime env packet h.tailOffset
  let timed := counted.calPktTimeLoss env packetTimestamp
  let motorSpeed ← readMotorSpeed env packet h.tailOffset
  let returnMode ← readReturnMode env packet h.tailOffset
  let frameId ← readFrameId env packet h.tailOffset
  let sped := { timed.tick with spinSpeed := motorSpeed, isDualReturn := isDualReturn returnMode }
  let stamped ← storeSensorTimestamp frame packet.recvTimestamp (getMicroLidarTime env packet h.tailOffset)
  let body ← (bodyReader env packet p frameId motorSpeed).walk h.getLaserNum h.getBlockNum
    (⟨V43.Header.bodyOffset, frame.packetNum * h.getBlockNum * h.getLaserNum, frame.pointData⟩,
      ⟨sped.useAngle, p.lastFrameid, sped.lastAzimuth, false⟩)
  pure ⟨0, { p with
      toGeneralParser := { sped with useAngle := body.2.useAngle, lastAzimuth := body.2.lastAzimuth }
      lastFrameid := body.2.lastFrameid },
    { stamped with
      hostTimestamp := timed.getMicroTickCountU64 env
      spinSpeed := motorSpeed
      returnMode := returnMode.toUInt16
      distanceUnit := h.getDistUnit
      laserNum := h.getLaserNum
      blockNum := h.getBlockNum
      perPointsNum := h.getBlockNum * h.getLaserNum
      scanComplete := body.2.scanComplete
      pointData := body.1.slots
      packetNum := frame.packetNum + 1 }⟩

def decodePacket : Logged DecodeEvent (Decoded Udp47Parser Pt) :=
  if p.getCorrectionFile = false then reject p frame
  else afterDelimiter env packet p frame do
    let h ← readHeader env packet
    decodeBody env packet h p frame

def pointAngles (data : PointDecodeData) (i : ℕ) : ℤ × ℤ :=
  if p.getCorrectionFile then
    let c := p.corrections
    let azimuth := (circle + truncate data.azimuth).tmod circle
    let elevation :=
      if c.version = 1 ∨ c.version = 2 then truncate (c.elevation i * kAllFineResolutionFloat)
      else if c.version = 3 then
        truncate (c.elevation i * kAllFineResolutionFloat + c.elevationAdjust azimuth * kAllFineResolutionFloat)
      else 0
    (azimuth, (circle + elevation).tmod circle)
  else (0, 0)

def computeXYZI [Point Pt] (packetIndex : ℕ) : Logged DecodeEvent (ℕ → Pt) :=
  let base := packetIndex * frame.perPointsNum
  fillGrid .point base frame.laserNum (fun b => some fun i =>
    let data := frame.pointData (base + b * frame.laserNum + i)
    let angles := p.pointAngles data i
    p.fillPoint env frame.config data (frame.sensorTimestamp packetIndex)
      (data.distances.toNat * frame.distanceUnit) angles.1 angles.2 i) frame.blockNum frame.points

end Decode

end Udp47Parser

def udp47 (env : Environment) (Pt Fault : Type) [Point Pt] (parserFaultMessage : UdpPacket → Fault → Fault) :
    Parser Udp47Parser Pt Fault where
  new _ := default
  decodePacket p frame packet := p.decodePacket env packet frame
  computeXYZI p frame packetIndex := p.computeXYZI env frame packetIndex
  parserFaultMessage _ := parserFaultMessage

end HesaiSdk.Parsing
