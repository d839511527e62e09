import HesaiSdk.UdpParser.Compute

/-! The forms in which the mechanical lidars repeat `ComputeXYZI`. -/

namespace HesaiSdk.Parsing

open Library Library.BlockWalk Lidar UdpProtocol

def BlockAzimuths {Pt : Type} (frame : LidarDecodedFrame Pt) (packetIndex : ℕ) : Prop :=
  ∀ b < frame.blockNum, ∀ i < frame.laserNum, ∃ u16Azimuth : UInt16,
    (frame.pointData (packetIndex * frame.perPointsNum + b * frame.laserNum + i)).azimuth = u16Azimuth.toNat

lemma blockAzimuths_of_filled {Pt Head Acc : Type} {frame : LidarDecodedFrame Pt} {packetNum o : ℕ}
    {pointData : ℕ → PointDecodeData} {r : BlockReader DecodeEvent PointDecodeData Head Acc}
    (hper : frame.perPointsNum = frame.blockNum * frame.laserNum)
    (hdata : frame.pointData =
      r.filled frame.laserNum frame.blockNum o (packetNum * frame.blockNum * frame.laserNum) pointData)
    (hunit : ∀ b j old, ∃ u16Azimuth : UInt16, (r.unitAt frame.laserNum o b j old).val.azimuth = u16Azimuth.toNat) :
    BlockAzimuths frame packetNum := by
  intro b hb i hi
  rw [hper, ← Nat.mul_assoc, hdata, BlockReader.filled_unit r hb hi]
  exact hunit b i _

/-- Without a correction file the azimuth is what `raw` makes of the azimuth of the block; `confidence` is whether
`setConfidence` is called. -/
structure ComputeForm (Pt : Type) where
  raw : ℤ → ℤ
  spot : Calibration → ℚ → ℤ
  distanceUnit : LidarDecodedFrame Pt → ℚ
  confidence : Bool

namespace Calibration

variable {Pt : Type} [Point Pt] (env : Environment)

def fillPlainPoint (p : Calibration) (config : LidarDecodeConfig) (data : PointDecodeData)
    (timestamp : UInt64) (distance : ℚ) (azimuth elevation : ℤ) (ring : ℕ) (point : Pt) : Pt :=
  let fovTransfer := (azimuth.tdiv 256).tdiv 100
  if config.fovStart ≠ -1 ∧ config.fovEnd ≠ -1 ∧
      (fovTransfer < config.fovStart ∨ config.fovEnd < fovTransfer) then Point.zeroed
  else
    let xyDistance := distance * cosAllAngle env elevation
    let xyz := p.transformPoint env (xyDistance * sinAllAngle env azimuth)
      (xyDistance * cosAllAngle env azimuth) (distance * sinAllAngle env elevation)
    let point := Point.setX point xyz.1
    let point := Point.setY point xyz.2.1
    let point := Point.setZ point xyz.2.2
    let point := Point.setIntensity point data.reflectivities
    let point := Point.setTimestamp point (timestamp.toNat / kMicrosecondToSecond)
    Point.setRing point ring

end Calibration

namespace ComputeForm

variable {Pt : Type} [Point Pt] (form : ComputeForm Pt) (env : Environment) (p : Calibration)

def withConfidence (Pt : Type) (spot : Calibration → ℚ → ℤ) : ComputeForm Pt :=
  ⟨fun _ => 0, spot, fun frame => frame.distanceUnit, true⟩

def pointAngles (frame : LidarDecodedFrame Pt) (data : PointDecodeData) (i : ℕ) : ℚ × ℤ × ℤ :=
  if p.getCorrectionFile then p.pointAngles env (form.spot p) (form.distanceUnit frame) data i
  else (data.distances.toNat * form.distanceUnit frame, form.raw (truncate (data.azimuth * kFineResolutionFloat)), 0)

def computePoint (frame : LidarDecodedFrame Pt) (packetIndex pointIndex i : ℕ) (point : Pt) : Pt :=
  let data := frame.pointData pointIndex
  let angles := form.pointAngles env p frame data i
  let fill := if form.confidence then p.fillPoint env else p.fillPlainPoint env
  fill frame.config data (frame.sensorTimestamp packetIndex) angles.1 angles.2.1 angles.2.2 i point

def computeXYZI (frame : LidarDecodedFrame Pt) (packetIndex : ℕ) : Logged DecodeEvent (ℕ → Pt) :=
  let base := packetIndex * frame.perPointsNum
  fillGrid .point base frame.laserNum (fun b => some fun i =>
    form.computePoint env p frame packetIndex (base + b * frame.laserNum + i) i) frame.blockNum frame.points

lemma withConfidence_computeXYZI (spot : Calibration → ℚ → ℤ) (frame : LidarDecodedFrame Pt) (packetIndex : ℕ) :
    (withConfidence Pt spot).computeXYZI env p frame packetIndex = p.computeXYZI env (spot p) frame packetIndex := by
  have hangles (data : PointDecodeData) (i : ℕ) : (withConfidence Pt spot).pointAngles env p frame data i =
      p.pointAngles env (spot p) frame.distanceUnit data i := by
    rw [pointAngles]
    split_ifs with hget
    · rfl
    · rw [Calibration.pointAngles, if_neg hget]
      rfl
  have hpoint (pointIndex i : ℕ) (point : Pt) :
      (withConfidence Pt spot).computePoint env p frame packetIndex pointIndex i point =
        p.computePoint env (spot p) frame packetIndex pointIndex i point := by
    simp only [computePoint, hangles]
    rfl
  have hrow (pointIndex i : ℕ) : (withConfidence Pt spot).computePoint env p frame packetIndex pointIndex i =
      p.computePoint env (spot p) frame packetIndex pointIndex i := funext (hpoint pointIndex i)
  simp only [computeXYZI, Calibration.computeXYZI, hrow]

end ComputeForm

end HesaiSdk.Parsing
