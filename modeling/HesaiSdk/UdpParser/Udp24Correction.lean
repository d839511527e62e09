import HesaiSdk.UdpParser.EtCompute

/-! The calibration files of the 2.4 parser, and its `ComputeXYZI`. -/

namespace HesaiSdk.Parsing

open Library Library.BlockWalk Library.BufferRead Library.TextStream Lidar UdpProtocol

def ET_MAX_CHANNEL_NUM_24 : ℕ := 512

/-- `ETCorrections_V4`, whose header is the one of the other ET parsers in versions 1 and 2. -/
structure ETCorrectionsV4 where
  header : ETCorrectionsHeader
  azimuths : ℕ → ℚ
  elevations : ℕ → ℚ
deriving Inhabited

namespace ETCorrectionsV4

variable (data : CorrectionData) (c : ETCorrectionsV4)

def angleAt (o i : ℕ) : ℚ := data.int16At (o + 2 * i) / c.header.angleDivision

def copyFile : ETCorrectionsV4 :=
  let o := ETCorrectionsHeader.sizeofV1V2
  let channelNum := c.header.channelNumber
  { c with
    azimuths := fillTo 3 (fun i _ => c.angleAt data o i) channelNum c.azimuths
    elevations := fillTo 3 (fun i _ => c.angleAt data (o + 2 * channelNum) i) channelNum
      (setFirst 3 c.header.mounting c.elevations) }

/-- A row of a text file is looked at if it has three fields; none where a conversion throws. -/
def readRow (line : List Char) : Option (Option (ℚ × ℚ)) :=
  match getlines ',' line with
  | _ :: field2 :: field3 :: _ => do
    let column2 ← stof field2
    let column3 ← stof field3
    pure (some (column2, column3))
  | _ => some none

def storeRows (rows : List (ℚ × ℚ)) : ETCorrectionsV4 :=
  let n := min rows.length ET_MAX_CHANNEL_NUM_24
  { header := { c.header with
      minVersion := 1
      channelNumber := 64
      angleDivision := 1 }
    elevations := setFirst n (fun i => (rows.getD i 0).1) c.elevations
    azimuths := setFirst n (fun i => (rows.getD i 0).2) c.azimuths }

end ETCorrectionsV4

namespace Udp24Parser

def loadCorrectionString (data : CorrectionData) (p : EtParser ETCorrectionsV4) : EtParser ETCorrectionsV4 × ℤ :=
  if data.isDelimited then
    if data.version = 1 then
      let stored := { p.corrections with header := ETCorrectionsHeader.readV1V2 data }
      if ET_MAX_CHANNEL_NUM_24 - 3 < stored.header.channelNumber ∨ stored.header.angleDivision = 0
      then ({ p with corrections := stored }, -1)
      else
        ({ p with
            getCorrectionFile := true
            corrections := stored.copyFile data }, 0)
    else (p, -1)
  else (p, -1)

/-- Nothing is stored before the whole text is read, so that an exception on the way leaves the parser as it was. -/
def loadCorrectionStringCsv (contents : Option (List Char)) (p : EtParser ETCorrectionsV4) :
    EtParser ETCorrectionsV4 × ℤ :=
  match contents with
  | none => (p, 0)
  | some text =>
    match (getlines '\n' text).tail.mapM ETCorrectionsV4.readRow with
    | none => (p, 0)
    | some rows => ({ p with corrections := p.corrections.storeRows rows.reduceOption }, 1)

variable (env : Environment) {Pt : Type} [Point Pt] (c : ETCorrectionsV4) (frame : LidarDecodedFrame Pt)
  (packetIndex : ℕ)

/-- There are no adjust tables. -/
def computeXYZI : Logged DecodeEvent (ℕ → Pt) :=
  fillGrid .point (packetIndex * frame.perPointsNum) frame.laserNum (fun b => some fun i =>
    let data := frame.pointData (packetIndex * frame.perPointsNum + b * frame.laserNum + i)
    let angles := mirrorAngles env c.azimuths c.elevations (c.elevations 2) i data.azimuth data.elevation
    fillEtPoint env frame.config data (frame.sensorTimestamp packetIndex) (data.distances.toNat * frame.distanceUnit)
      angles true i) frame.blockNum frame.points

end Udp24Parser

end HesaiSdk.Parsing
