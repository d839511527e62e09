import HesaiSdk.UdpParser.ComputeForm
import HesaiSdk.UdpParser.Correction

/-! The table entries that `ComputeXYZI` of the mechanical lidars reads, with the distance correction off. -/

namespace HesaiSdk.Parsing

open Lidar UdpProtocol

/-- An index of `cos_all_angle_` and `sin_all_angle_` is missing where the `int` arithmetic before it is undefined. -/
inductive TableAccess where
  | azimuthCollection (i : ℕ)
  | elevationCorrection (i : ℕ)
  | allAngle (index : Option ℤ)

def TableAccess.Inside (size : ℕ) : TableAccess → Prop
  | azimuthCollection i => i < size
  | elevationCorrection i => i < size
  | allAngle index => ∃ k, index = some k ∧ 0 ≤ k ∧ k < circle

def inInt (n : ℤ) : Option ℤ := if -2 ^ 31 ≤ n ∧ n < 2 ^ 31 then some n else none

/-- `(int(entry * kAllFineResolutionFloat) + CIRCLE) % CIRCLE` -/
def entryAngle (entry : ℚ) : Option ℤ := do
  let n ← inInt (fineAngle entry)
  let sum ← inInt (n + circle)
  pure (sum.tmod circle)

/-- The field of view test, with which `fillPoint` drops a point. -/
def OutsideFov (config : LidarDecodeConfig) (azimuth : ℤ) : Prop :=
  config.fovStart ≠ -1 ∧ config.fovEnd ≠ -1 ∧
    ((azimuth.tdiv 256).tdiv 100 < config.fovStart ∨ config.fovEnd < (azimuth.tdiv 256).tdiv 100)

instance (config : LidarDecodeConfig) (azimuth : ℤ) : Decidable (OutsideFov config azimuth) :=
  inferInstanceAs (Decidable (_ ∧ _ ∧ _))

namespace ComputeForm

variable {Pt : Type} (form : ComputeForm Pt) (p : Calibration) (frame : LidarDecodedFrame Pt)

def pointDirection (data : PointDecodeData) (i : ℕ) : Option (ℤ × ℤ) := do
  let azimuth ← inInt (truncate (data.azimuth * kFineResolutionFloat))
  if p.getCorrectionFile then
    let azimuthColl ← entryAngle (p.azimuthCollection i)
    let elevationCorr ← entryAngle (p.elevationCorrection i)
    let sum ← inInt (azimuth + azimuthColl)
    let turned ← inInt (circle + (sum - form.spot p (data.distances.toNat * form.distanceUnit frame)))
    pure (turned.tmod circle, elevationCorr)
  else pure (form.raw azimuth, 0)

def angleAccesses (config : LidarDecodeConfig) : Option (ℤ × ℤ) → List TableAccess
  | none => [.allAngle none]
  | some (azimuth, elevation) =>
    if OutsideFov config azimuth then [] else [.allAngle (some elevation), .allAngle (some azimuth)]

def pointAccesses (data : PointDecodeData) (i : ℕ) : List TableAccess :=
  (if p.getCorrectionFile then [.azimuthCollection i, .elevationCorrection i] else []) ++
    angleAccesses frame.config (form.pointDirection p frame data i)

def tableAccesses (packetIndex : ℕ) : List TableAccess :=
  (List.range frame.blockNum).flatMap fun b => (List.range frame.laserNum).flatMap fun i =>
    form.pointAccesses p frame (frame.pointData (packetIndex * frame.perPointsNum + b * frame.laserNum + i)) i

end ComputeForm

section Angles

variable {entry : ℚ} {m n : ℤ}

lemma inInt_eq_some : inInt n = some m ↔ n = m ∧ -2 ^ 31 ≤ n ∧ n < 2 ^ 31 := by
  rw [inInt]
  split_ifs with h
  · rw [Option.some_inj, and_iff_left h]
  · exact ⟨fun hnone => absurd hnone (by simp), fun hsome => absurd hsome.2 h⟩

def EntryFits (entry : ℚ) : Prop := -2 ^ 31 ≤ fineAngle entry ∧ fineAngle entry + circle < 2 ^ 31

lemma entryAngle_eq_some : entryAngle entry = some m ↔
    EntryFits entry ∧ (fineAngle entry + circle).tmod circle = m := by
  have hcircle : circle = 9216000 := by decide
  rw [entryAngle, EntryFits]
  simp only [Option.bind_eq_bind, Option.bind_eq_some_iff, inInt_eq_some, Option.pure_def, Option.some_inj]
  constructor
  · rintro ⟨a, ⟨rfl, hlow, -⟩, b, ⟨rfl, -, hhigh⟩, rfl⟩
    exact ⟨⟨hlow, hhigh⟩, rfl⟩
  · rintro ⟨⟨hlow, hhigh⟩, rfl⟩
    exact ⟨_, ⟨rfl, hlow, by omega⟩, _, ⟨rfl, by omega, hhigh⟩, rfl⟩

end Angles

namespace ComputeForm

variable {Pt : Type} {form : ComputeForm Pt} {p : Calibration} {frame : LidarDecodedFrame Pt} {data : PointDecodeData}
  {i size : ℕ}

def SpotInTurn (form : ComputeForm Pt) : Prop :=
  ∀ p distance, 0 ≤ form.spot p distance ∧ form.spot p distance < circle

lemma pointAngles_of_pointDirection (env : Environment) {azimuth elevation : ℤ}
    (hdistance : p.enableDistanceCorrection = false)
    (h : form.pointDirection p frame data i = some (azimuth, elevation)) :
    form.pointAngles env p frame data i = (data.distances.toNat * form.distanceUnit frame, azimuth, elevation) := by
  rw [pointAngles]
  split_ifs with hget
  · simp only [pointDirection, hget, if_true, Option.bind_eq_bind, Option.bind_eq_some_iff, inInt_eq_some,
      entryAngle_eq_some, Option.pure_def, Option.some_inj, Prod.mk.injEq] at h
    obtain ⟨_, ⟨rfl, -, -⟩, _, ⟨-, rfl⟩, _, ⟨-, rfl⟩, _, ⟨rfl, -, -⟩, _, ⟨rfl, -, -⟩, rfl, rfl⟩ := h
    rw [Calibration.pointAngles, if_pos hget]
    simp only [hdistance, Bool.false_eq_true, if_false]
  · simp only [pointDirection, hget, Bool.false_eq_true, if_false, Option.bind_eq_bind, Option.bind_eq_some_iff,
      inInt_eq_some, Option.pure_def, Option.some_inj, Prod.mk.injEq] at h
    obtain ⟨_, ⟨rfl, -, -⟩, rfl, rfl⟩ := h
    rfl

end ComputeForm

end HesaiSdk.Parsing
