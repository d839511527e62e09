import HesaiSdk.Library.BufferRead
import HesaiSdk.UdpParser.Correction
import HesaiSdk.UdpParser.EtParser
import HesaiSdk.UdpParser.Udp43Correction

/-! The calibration files of the ET lidars. -/

namespace HesaiSdk.Parsing

open Library Library.BlockWalk Library.BufferRead Lidar UdpProtocol

def ET_MAX_CHANNEL_NUM : ℕ := 512

structure ETCorrectionsHeader where
  minVersion : UInt8
  channelNumber : ℕ
  mirrorNumber : ℕ
  angleDivision : ℕ
  apha : ℤ
  beta : ℤ
  gamma : ℤ
deriving Inhabited

namespace ETCorrectionsHeader

def sizeofV1V2 : ℕ := 16

def readV1V2 (data : CorrectionData) : ETCorrectionsHeader :=
  ⟨data 3, (data 6).toNat, (data 7).toNat, data.uint16At 8, data.int16At 10, data.int16At 12, data.int16At 14⟩

def sizeofHeader : ℕ := 17

def read (data : CorrectionData) : ETCorrectionsHeader :=
  ⟨data 3, data.uint16At 6, (data 8).toNat, data.uint16At 9, data.int16At 11, data.int16At 13, data.int16At 15⟩

def sizeofV3_4 : ℕ := 16

/-- Version 4 has a `gamma` for each mirror instead, and that of the header stays. -/
def readV3_4 (data : CorrectionData) (gamma : ℤ) : ETCorrectionsHeader :=
  ⟨data 3, data.uint16At 6, (data 8).toNat, data.uint16At 10, data.int16At 12, data.int16At 14, gamma⟩

variable (h : ETCorrectionsHeader)

def refused : Bool := decide (ET_MAX_CHANNEL_NUM - 3 < h.channelNumber ∨ h.angleDivision = 0)

def mounting (i : ℕ) : ℚ := ([h.apha, h.beta, h.gamma].getD i 0 : ℤ) / h.angleDivision

end ETCorrectionsHeader

structure ETCorrections where
  header : ETCorrectionsHeader
  minVersion : UInt8
  turnNumberPerFrame : ℕ
  gammaF : ℕ → ℚ
  azimuths : ℕ → ℚ
  elevations : ℕ → ℚ
  azimuthAdjust : ℕ → ℤ
  elevationAdjust : ℕ → ℤ
  azimuthOffsetDeltaF : ℕ → ℚ
  elevationOffsetDeltaF : ℕ → ℚ
  azimuthAdjustInterval : UInt8
  elevationAdjustInterval : UInt8
deriving Inhabited

namespace ETCorrections

/-- `angle_offset_len` of versions 2 and 3, for intervals in half degrees. -/
def angleOffsetLenV2 (azimuthInterval elevationInterval : UInt8) : ℕ :=
  (truncate ((120 / (azimuthInterval.toNat * (1 / 2)) + 1) * (25 / (elevationInterval.toNat * (1 / 2)) + 1))).toNat

/-- `angle_offset_len` of version 4, for intervals in tenths of a degree. -/
def angleOffsetLenV4 (turns : ℕ) (azimuthInterval elevationInterval : UInt8) : ℕ :=
  (truncate (turns * (120 / (azimuthInterval.toNat * (1 / 10)) + 1) *
    (16 / 5 / (elevationInterval.toNat * (1 / 10)) + 1))).toNat

variable (data : CorrectionData) (o : ℕ) (c : ETCorrections)

def angleAt (o i : ℕ) : ℚ := data.int16At (o + 2 * i) / c.header.angleDivision

/-- The tables of the channels, azimuths first; the mounting angles stand before the elevations. -/
def copyChannels (mountings : ℕ) : ETCorrections :=
  { c with
    azimuths := fillTo 3 (fun i _ => c.angleAt data o i) c.header.channelNumber c.azimuths
    elevations := fillTo 3 (fun i _ => c.angleAt data (o + 2 * c.header.channelNumber) i) c.header.channelNumber
      (setFirst mountings c.header.mounting c.elevations) }

def copyMirrors (gammaOffset deltaOffset : ℕ) : ETCorrections :=
  let mirrors := c.header.mirrorNumber
  { c with
    gammaF := setFirst mirrors (c.angleAt data gammaOffset) c.gammaF
    azimuthOffsetDeltaF := setFirst mirrors (c.angleAt data deltaOffset) c.azimuthOffsetDeltaF
    elevationOffsetDeltaF := setFirst mirrors (c.angleAt data (deltaOffset + 2 * mirrors)) c.elevationOffsetDeltaF }

/-- The intervals and the two tables behind them. The quotients are infinite where an interval is 0, and their
conversion to `int` is undefined; a length beyond the tables is not looked at. -/
def copyAdjust (angleOffsetLen : UInt8 → UInt8 → ℕ) : Option ETCorrections :=
  if data o = 0 ∨ data (o + 1) = 0 then none
  else
    let len := angleOffsetLen (data o) (data (o + 1))
    some { c with
      azimuthAdjustInterval := data o
      elevationAdjustInterval := data (o + 1)
      azimuthAdjust := setFirst len (fun i => data.int16At (o + 2 + 2 * i)) c.azimuthAdjust
      elevationAdjust := setFirst len (fun i => data.int16At (o + 2 + 2 * len + 2 * i)) c.elevationAdjust }

def copyVersion1 : ETCorrections := c.copyChannels data ETCorrectionsHeader.sizeofV1V2 3

/-- Versions 2 and 3 differ in the size of their header. -/
def copyVersion2 (sizeofHeader : ℕ) : Option ETCorrections :=
  (c.copyChannels data sizeofHeader 3).copyAdjust data (sizeofHeader + 4 * c.header.channelNumber) angleOffsetLenV2

def copyVersion4 : Option ETCorrections :=
  let channelOffset := ETCorrectionsHeader.sizeofV3_4 + 2 * c.header.mirrorNumber
  let deltaOffset := channelOffset + 4 * c.header.channelNumber
  ((c.copyMirrors data ETCorrectionsHeader.sizeofV3_4 deltaOffset).copyChannels data channelOffset 2).copyAdjust data
    (deltaOffset + 4 * c.header.mirrorNumber) (angleOffsetLenV4 c.turnNumberPerFrame)

end ETCorrections

/-- What follows the header: it has been stored already when it is refused. -/
def EtParser.commit (p : EtParser ETCorrections) (stored : ETCorrections) (refused : Bool)
    (copied : Option ETCorrections) : Option (EtParser ETCorrections × ℤ) :=
  if refused then some ({ p with corrections := stored }, -1)
  else copied.map fun corrections => ({ p with
    getCorrectionFile := true
    corrections := corrections }, 0)

/-- `LoadCorrectionCsvData`, which reads its rows like the mechanical lidars do. -/
def EtParser.loadCorrectionCsvData (memory : LoadMemory) (text : List Char) (p : EtParser ETCorrections) :
    Option (EtParser ETCorrections × ℤ) :=
  (dataLines text).map fun lines =>
    let lists := lines.foldl (readRow memory) ⟨0, memory.elevationList, memory.azimuthList⟩
    ({ p with
        getCorrectionFile := true
        corrections := { p.corrections with
          azimuths := setFirst lists.lineCount lists.azimuthList p.corrections.azimuths
          elevations := setFirst lists.lineCount lists.elevationList p.corrections.elevations } }, 0)

/-- A file that is refused as binary data is read as text. -/
def EtParser.loadCorrectionString (loadCorrectionDatData : CorrectionData → EtParser ETCorrections →
    Option (EtParser ETCorrections × ℤ)) (stack : LoadMemory) (memory : List UInt8) (p : EtParser ETCorrections) :
    Option (EtParser ETCorrections × ℤ) := do
  let (q, ret) ← loadCorrectionDatData (memoryAt memory) p
  if ret = 0 then some (q, 0)
  else
    let text ← cString memory
    q.loadCorrectionCsvData stack text

namespace Udp25Parser

def storeHeader (h : ETCorrectionsHeader) (c : ETCorrections) : ETCorrections :=
  { c with
    header := h
    minVersion := h.minVersion }

def loadCorrectionDatData (data : CorrectionData) (p : EtParser ETCorrections) :
    Option (EtParser ETCorrections × ℤ) :=
  if data.isDelimited then
    if data.version = 1 then
      let stored := storeHeader (ETCorrectionsHeader.readV1V2 data) p.corrections
      p.commit stored stored.header.refused (some (stored.copyVersion1 data))
    else if data.version = 2 then
      let stored := storeHeader (ETCorrectionsHeader.readV1V2 data) p.corrections
      p.commit stored stored.header.refused (stored.copyVersion2 data ETCorrectionsHeader.sizeofV1V2)
    else if data.version = 3 then
      let stored := storeHeader (ETCorrectionsHeader.read data) p.corrections
      p.commit stored stored.header.refused (stored.copyVersion2 data ETCorrectionsHeader.sizeofHeader)
    else if data.version = 4 then
      let stored := { storeHeader (ETCorrectionsHeader.readV3_4 data p.corrections.header.gamma) p.corrections with
        turnNumberPerFrame := (data 9).toNat }
      p.commit stored (stored.header.refused || decide (8 < stored.header.mirrorNumber)) (stored.copyVersion4 data)
    else some (p, -1)
  else some (p, -1)

def loadCorrectionString (stack : LoadMemory) (memory : List UInt8) (p : EtParser ETCorrections) :
    Option (EtParser ETCorrections × ℤ) :=
  p.loadCorrectionString loadCorrectionDatData stack memory

end Udp25Parser

namespace Udp26Parser

def storeHeader (h : ETCorrectionsHeader) (c : ETCorrections) : ETCorrections := { c with header := h }

def loadCorrectionDatData (data : CorrectionData) (p : EtParser ETCorrections) :
    Option (EtParser ETCorrections × ℤ) :=
  if data.isDelimited then
    if data.version = 1 then
      let stored := storeHeader (ETCorrectionsHeader.readV1V2 data) p.corrections
      p.commit stored stored.header.refused (some (stored.copyVersion1 data))
    else if data.version = 2 then
      let stored := storeHeader (ETCorrectionsHeader.readV1V2 data) p.corrections
      p.commit stored stored.header.refused (stored.copyVersion2 data ETCorrectionsHeader.sizeofV1V2)
    else some (p, -1)
  else some (p, -1)

def loadCorrectionString (stack : LoadMemory) (memory : List UInt8) (p : EtParser ETCorrections) :
    Option (EtParser ETCorrections × ℤ) :=
  p.loadCorrectionString loadCorrectionDatData stack memory

end Udp26Parser

end HesaiSdk.Parsing
