import HesaiSdk.Library.FloatRounding
import HesaiSdk.UdpParser.EtBody
import HesaiSdk.UdpParser.EtCorrection

/-! `ComputeXYZI` of the ET lidars. -/

namespace HesaiSdk.Parsing

open Library Library.BlockWalk Library.FloatRounding Lidar UdpProtocol

inductive EtTable where
  | azimuthAdjust
  | elevationAdjust
deriving DecidableEq

/-- The entries of `ETCorrections` that are read for a point, of those with an index from a file or a packet. -/
inductive EtAccess where
  | gamma (mirror : ℕ)
  | offsetDelta (mirror : ℕ)
  | adjust (table : EtTable) (index : ℤ)
deriving DecidableEq

namespace ETCorrections

variable (c : ETCorrections)

def readAdjust (table : EtTable) (index : ℤ) : Logged EtAccess ℚ := do
  note (.adjust table index)
  match table with
  | .azimuthAdjust => pure (c.azimuthAdjust index.toNat)
  | .elevationAdjust => pure (c.elevationAdjust index.toNat)

def azimuthFov : ℚ := 120

section Adjust

/-! `round` is that of the arithmetic: to the nearest `float` in the parsers. -/

variable (round : ℚ → ℚ) (elevationFov resolution : ℚ)

def azimuthStep : ℚ := round (c.azimuthAdjustInterval.toNat * resolution)

def elevationStep : ℚ := round (c.elevationAdjustInterval.toNat * resolution)

def azimuthOffsetNum : ℤ := truncate (round (round (azimuthFov / c.azimuthStep round resolution) + 1))

def elevationOffsetNum : ℤ := truncate (round (round (elevationFov / c.elevationStep round resolution) + 1))

def offsetIndex1 (azi : ℚ) : ℤ := truncate (round (round (azi + azimuthFov / 2) / c.azimuthStep round resolution))

def offsetIndex2 (ele : ℚ) : ℤ := truncate (round (round (ele + elevationFov / 2) / c.elevationStep round resolution))

/-- `coefficient1` and `coefficient2`: how far an angle is from the end of its cell. -/
def coefficient (step fov angle : ℚ) (offsetIndex : ℤ) : ℚ :=
  round (round (round (round ((offsetIndex + 1) * step) - angle) - fov / 2) / step)

def weightedMean (coefficient first second : ℚ) : ℚ :=
  round (round (coefficient * first) + round (round (1 - coefficient) * second))

/-- The text of the four adjust functions, which take the weighted mean of four entries in the grid of a turn. -/
def adjust (table : EtTable) (azi ele : ℚ) (turn : ℤ) : Logged EtAccess ℚ :=
  let azimuthOffsetNum := c.azimuthOffsetNum round resolution
  let elevationOffsetNum := c.elevationOffsetNum round elevationFov resolution
  let offsetIndex1 := c.offsetIndex1 round resolution azi
  let offsetIndex2 := c.offsetIndex2 round elevationFov resolution ele
  if azimuthOffsetNum - 1 ≤ offsetIndex1 ∨ elevationOffsetNum - 1 ≤ offsetIndex2 then pure 0
  else if offsetIndex1 < 0 ∨ offsetIndex2 < 0 then pure 0
  else do
    let coefficient1 := coefficient round (c.azimuthStep round resolution) azimuthFov azi offsetIndex1
    let coefficient2 := coefficient round (c.elevationStep round resolution) elevationFov ele offsetIndex2
    let mrOffset := azimuthOffsetNum * elevationOffsetNum * turn
    let azIndex1 := offsetIndex1 + offsetIndex2 * azimuthOffsetNum + mrOffset
    let azIndex2 := offsetIndex1 + (offsetIndex2 + 1) * azimuthOffsetNum + mrOffset
    let entry11 ← c.readAdjust table azIndex1
    let entry12 ← c.readAdjust table (azIndex1 + 1)
    let entry21 ← c.readAdjust table azIndex2
    let entry22 ← c.readAdjust table (azIndex2 + 1)
    let offset1 := weightedMean round coefficient1 entry11 entry12
    let offset2 := weightedMean round coefficient1 entry21 entry22
    pure (round (weightedMean round coefficient2 offset1 offset2 / c.header.angleDivision))

end Adjust

def elevationFovV2 : ℚ := 25

def resolutionV2 : ℚ := 1 / 2

/-- `3.2f` -/
def elevationFovV4 : ℚ := roundFloat (16 / 5)

/-- `0.1f` -/
def resolutionV4 : ℚ := roundFloat (1 / 10)

section Versions

variable (round : ℚ → ℚ) (azi ele : ℚ)

/-- Versions 2 and 3 have one grid. -/
def getAziAdjustV2 : Logged EtAccess ℚ := c.adjust round elevationFovV2 resolutionV2 .azimuthAdjust azi ele 0

def getEleAdjustV2 : Logged EtAccess ℚ := c.adjust round elevationFovV2 resolutionV2 .elevationAdjust azi ele 0

def getAziAdjustV4 (mirrorId : ℤ) : Logged EtAccess ℚ :=
  c.adjust round elevationFovV4 resolutionV4 .azimuthAdjust azi ele mirrorId

def getEleAdjustV4 (mirrorId : ℤ) : Logged EtAccess ℚ :=
  c.adjust round elevationFovV4 resolutionV4 .elevationAdjust azi ele mirrorId

end Versions

def readOffsetDelta (table : ℕ → ℚ) (mirror : ℕ) : Logged EtAccess ℚ := do
  note (.offsetDelta mirror)
  pure (table mirror)

end ETCorrections

/-- `azi_h` and `elv_h`, or what they have been corrected to. -/
structure EtAngles where
  azimuth : ℚ
  elevation : ℚ

section Angles

variable (env : Environment) (azimuths elevations : ℕ → ℚ) (c : ETCorrections)

def radians (degrees : ℚ) : ℚ := degrees * env.pi / 180

/-- The direction behind the mirror, from the raw angles of a sequence and the calibration of a channel. -/
def mirrorAngles (gamma : ℚ) (channel : ℕ) (rawAzimuth rawElevation : ℚ) : EtAngles :=
  let apha := elevations 0
  let beta := elevations 1
  let phi := azimuths (channel + 3)
  let theta := elevations (channel + 3)
  let an := apha + phi
  let thetaN := rawElevation + theta / env.cos (radians env an)
  let elvV := radians env rawElevation + radians env theta -
    env.tan (radians env rawElevation) * (1 - env.cos (radians env an))
  let deltAziV := env.sin (radians env an) * env.cos (radians env an) * thetaN * thetaN / 2 * (127 / 125) *
    env.pi / 180 * env.pi / 180
  let eta := phi + deltAziV * 180 / env.pi + beta + rawAzimuth / 2
  let deltAziH := env.sin (radians env eta) * env.tan (radians env (2 * gamma)) * env.tan elvV +
    env.sin (radians env (2 * eta)) * gamma * gamma * env.pi / 180 * env.pi / 180
  { azimuth := 90 + rawAzimuth + deltAziH * 180 / env.pi + deltAziV * 180 / env.pi + phi
    elevation := elvV * 180 / env.pi + env.cos (radians env eta) * 2 * gamma }

def adjustV2 (a : EtAngles) : Logged EtAccess EtAngles := do
  let aziAdjust ← c.getAziAdjustV2 roundFloat (a.azimuth - 90) a.elevation
  let azimuth := a.azimuth + aziAdjust
  let eleAdjust ← c.getEleAdjustV2 roundFloat (azimuth - 90) a.elevation
  pure ⟨azimuth, a.elevation + eleAdjust⟩

def adjustV4 (mirror turn : ℕ) (a : EtAngles) : Logged EtAccess EtAngles := do
  let aziAdjust ← c.getAziAdjustV4 roundFloat (a.azimuth - 90) a.elevation turn
  let azimuth := a.azimuth + aziAdjust
  let eleAdjust ← c.getEleAdjustV4 roundFloat (azimuth - 90) a.elevation turn
  let elevation := a.elevation + eleAdjust
  let aziDelta ← ETCorrections.readOffsetDelta c.azimuthOffsetDeltaF mirror
  let eleDelta ← ETCorrections.readOffsetDelta c.elevationOffsetDeltaF mirror
  pure ⟨azimuth + aziDelta, elevation + eleDelta⟩

/-- An `int` modulo `CIRCLE`, which indexes the tables of sines and cosines. -/
def circleAngle (degrees : ℚ) : ℤ := (truncate (degrees * kAllFineResolutionFloat + circle)).tmod circle

/-- The end of the loops; only the 2.4 parser sets the confidence. -/
def fillEtPoint {Pt : Type} [Point Pt] (config : LidarDecodeConfig) (data : PointDecodeData) (timestamp : UInt64)
    (distance : ℚ) (angles : EtAngles) (withConfidence : Bool) (ring : ℕ) (point : Pt) : Pt :=
  let azimuth := circleAngle angles.azimuth
  let fovTransfer := (azimuth.tdiv 256).tdiv 100
  if config.fovStart ≠ -1 ∧ config.fovEnd ≠ -1 ∧
      (fovTransfer < config.fovStart ∨ config.fovEnd < fovTransfer) then Point.zeroed
  else
    let elevation := circleAngle angles.elevation
    let xyDistance := distance * Calibration.cosAllAngle env elevation
    let point := Point.setX point (xyDistance * Calibration.sinAllAngle env azimuth)
    let point := Point.setY point (xyDistance * Calibration.cosAllAngle env azimuth)
    let point := Point.setZ point (distance * Calibration.sinAllAngle env elevation)
    let point := Point.setIntensity point data.reflectivities
    let point := if withConfidence then Point.setConfidence point data.confidence else point
    let point := Point.setTimestamp point (timestamp.toNat / kMicrosecondToSecond)
    Point.setRing point ring

end Angles

namespace Udp25Parser

variable (env : Environment) {Pt : Type} (c : ETCorrections) (frame : LidarDecodedFrame Pt) (packetIndex : ℕ)

/-- The byte of the first point of the packet, of which the upper half is the mirror and the lower half the turn. -/
def mirrorByte : UInt8 := (frame.pointData (packetIndex * frame.perPointsNum)).mirrorIndex

def mirrorIndex : ℕ := (mirrorByte frame packetIndex >>> 4 &&& 0x0F).toNat

def turnIndex : ℕ := (mirrorByte frame packetIndex &&& 0x0F).toNat

def readGamma : Logged EtAccess ℚ :=
  if c.minVersion = 4 then do
    note (.gamma (mirrorIndex frame packetIndex))
    pure (c.gammaF (mirrorIndex frame packetIndex))
  else pure (c.elevations 2)

def pointAngles (gamma : ℚ) (data : PointDecodeData) (i : ℕ) : Logged EtAccess EtAngles :=
  let angles := mirrorAngles env c.azimuths c.elevations gamma i data.azimuth data.elevation
  if c.header.minVersion = 2 ∨ c.header.minVersion = 3 then adjustV2 c angles
  else if c.minVersion = 4 then adjustV4 c (mirrorIndex frame packetIndex) (turnIndex frame packetIndex) angles
  else pure angles

def pointDataAt (b i : ℕ) : PointDecodeData :=
  frame.pointData (packetIndex * frame.perPointsNum + b * frame.laserNum + i)

def computeXYZI [Point Pt] : Logged DecodeEvent (ℕ → Pt) :=
  let gamma := (readGamma c frame packetIndex).val
  fillGrid .point (packetIndex * frame.perPointsNum) frame.laserNum (fun b => some fun i =>
    let data := pointDataAt frame packetIndex b i
    fillEtPoint env frame.config data (frame.sensorTimestamp packetIndex) (data.distances.toNat * frame.distanceUnit)
      (pointAngles env c frame packetIndex gamma data i).val false i) frame.blockNum frame.points

def tableAccesses : List EtAccess :=
  (readGamma c frame packetIndex).log ++
    (List.range frame.blockNum).flatMap fun b => (List.range frame.laserNum).flatMap fun i =>
      (pointAngles env c frame packetIndex (readGamma c frame packetIndex).val
        (pointDataAt frame packetIndex b i) i).log

end Udp25Parser

namespace Udp26Parser

variable (env : Environment) {Pt : Type} [Point Pt] (c : ETCorrections) (frame : LidarDecodedFrame Pt)
  (packetIndex : ℕ)

def pointAngles (data : PointDecodeData) : Logged EtAccess EtAngles :=
  let angles :=
    mirrorAngles env c.azimuths c.elevations (c.elevations 2) data.chnIndex.toNat data.azimuth data.elevation
  if c.header.minVersion = 2 ∨ c.header.minVersion = 3 then adjustV2 c angles else pure angles

/-- The number of points is a `uint16_t`. -/
def computeXYZI : Logged DecodeEvent (ℕ → Pt) :=
  let base := packetIndex * frame.perPointsNum
  fillRow .point base (frame.perPointsNum % 2 ^ 16) (fun i =>
    let data := frame.pointData (base + i)
    fillEtPoint env frame.config data (frame.sensorTimestamp packetIndex) (data.distances.toNat * frame.distanceUnit)
      (pointAngles env c data).val false data.chnIndex.toNat) frame.points

end Udp26Parser

end HesaiSdk.Parsing
