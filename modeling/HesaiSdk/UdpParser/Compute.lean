import HesaiSdk.Library.BlockWalk
import HesaiSdk.UdpParser.GeneralParser

/-! `ComputeXYZI` of the mechanical lidars. -/

namespace HesaiSdk.Parsing.Calibration

open Library Library.BlockWalk Lidar UdpProtocol

variable {Pt : Type} [Point Pt] (env : Environment) (p : Calibration)

/-- Distance, azimuth and elevation of one unit; `spot` is what the parser takes off the azimuth at
a distance. -/
def pointAngles (spot : ℚ → ℤ) (distanceUnit : ℚ) (data : PointDecodeData) (i : ℕ) : ℚ × ℤ × ℤ :=
  let distance := data.distances.toNat * distanceUnit
  let azimuth := truncate (data.azimuth * kFineResolutionFloat)
  if p.getCorrectionFile then
    let azimuthColl := (fineAngle (p.azimuthCollection i) + circle).tmod circle
    let elevationCorr := (fineAngle (p.elevationCorrection i) + circle).tmod circle
    let corrected := if p.enableDistanceCorrection
      then p.getDistanceCorrection env azimuthColl elevationCorr distance .geometricCenter
      else (azimuthColl, elevationCorr, distance)
    (corrected.2.2, (circle + (azimuth + corrected.1 - spot corrected.2.2)).tmod circle, corrected.2.1)
  else (distance, 0, 0)

def computePoint (spot : ℚ → ℤ) (frame : LidarDecodedFrame Pt) (packetIndex pointIndex i : ℕ) (point : Pt) : Pt :=
  let data := frame.pointData pointIndex
  let angles := p.pointAngles env spot frame.distanceUnit data i
  p.fillPoint env frame.config data (frame.sensorTimestamp packetIndex) angles.1 angles.2.1 angles.2.2 i point

def computeXYZI (spot : ℚ → ℤ) (frame : LidarDecodedFrame Pt) (packetIndex : ℕ) :
    Logged DecodeEvent (ℕ → Pt) :=
  let base := packetIndex * frame.perPointsNum
  fillGrid .point base frame.laserNum (fun b => some fun i =>
    p.computePoint env spot frame packetIndex (base + b * frame.laserNum + i) i) frame.blockNum frame.points

variable {env p} {spot : ℚ → ℤ} {frame : LidarDecodedFrame Pt} {packetIndex : ℕ}

lemma computeXYZI_log : (p.computeXYZI env spot frame packetIndex).log =
    (List.range' (packetIndex * frame.perPointsNum) (frame.blockNum * frame.laserNum)).map .point := by
  rw [computeXYZI, fillGrid_log]
  exact fun b _ => rfl

lemma computeXYZI_val (k : ℕ) : (p.computeXYZI env spot frame packetIndex).val k =
    if packetIndex * frame.perPointsNum ≤ k ∧
        k < packetIndex * frame.perPointsNum + frame.blockNum * frame.laserNum then
      p.computePoint env spot frame packetIndex k
        ((k - packetIndex * frame.perPointsNum) % frame.laserNum) (frame.points k)
    else frame.points k := by
  rw [computeXYZI, fillGrid_val, grid]
  by_cases hk : packetIndex * frame.perPointsNum ≤ k ∧
      k < packetIndex * frame.perPointsNum + frame.blockNum * frame.laserNum
  · rw [if_pos hk, if_pos hk]
    have hi := Nat.div_add_mod (k - packetIndex * frame.perPointsNum) frame.laserNum
    have hk' : packetIndex * frame.perPointsNum +
        (k - packetIndex * frame.perPointsNum) / frame.laserNum * frame.laserNum +
        (k - packetIndex * frame.perPointsNum) % frame.laserNum = k := by
      rw [Nat.mul_comm _ frame.laserNum]
      omega
    simp only [hk']
  · rw [if_neg hk, if_neg hk]

end HesaiSdk.Parsing.Calibration
