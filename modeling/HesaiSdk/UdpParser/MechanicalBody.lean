import HesaiSdk.UdpParser.ComputeForm
import HesaiSdk.UdpParser.Rotation
import HesaiSdk.UdpProtocol.BodyLayout

namespace HesaiSdk.Parsing

open Library Library.BlockWalk Lidar UdpProtocol

abbrev FireTimes := ℕ → ℕ → Option (Logged DecodeEvent ℚ)

def GeneralParser.fireTimes (g : GeneralParser) : FireTimes := fun _ j =>
  if g.getFiretimeFile then some (g.getFiretimesCorrection j g.spinSpeed.toNat) else none

@[simp] lemma GeneralParser.isNeedFrameSplitUncast_calibration (g : GeneralParser) (azimuth : UInt16) :
    (g.isNeedFrameSplitUncast azimuth).1.toCalibration = g.toCalibration := by
  rw [GeneralParser.isCopy_uncast.fst_eq, isNeedFrameSplit_calibration]

section Body

variable (env : Environment) (packet : UdpPacket) (l : BodyLayout) (fireTimes : FireTimes) (rotationFlag : ℤ)
  (store : ℕ → PointDecodeData → Logged DecodeEvent PointDecodeData)

def unitAzimuth (u16Azimuth : UInt16) : Option (Logged DecodeEvent ℚ) → Logged DecodeEvent ℚ
  | none => pure u16Azimuth.toNat
  | some fireTime => do
    let time ← fireTime
    pure (u16Azimuth.toNat + rotationFlag * time * kResolutionFloat)

/-- The body: each block hands on its azimuth. `store` is what a parser does besides. -/
def mechanicalReader : BlockReader DecodeEvent PointDecodeData (ℕ × UInt16) UInt16 where
  headSize := l.headSize
  unitSize := l.unitSize
  readHead b o := do
    let u16Azimuth ← readU16 env packet (o + l.azimuthAt)
    pure (b, u16Azimuth)
  writeUnit head j o slot := do
    let azimuth ← unitAzimuth rotationFlag head.2 (fireTimes head.1 j)
    let distance ← readU16 env packet o
    let reflectivity ← readU8 env packet (o + 2)
    store o { slot with azimuth := azimuth, distances := distance, reflectivities := reflectivity }
  written := .pointData
  finishBlock head _ := head.2

def mechanicalWalk (packetNum : ℕ) (pointData : ℕ → PointDecodeData) :
    Logged DecodeEvent (Cursor PointDecodeData × UInt16) :=
  (mechanicalReader env packet l fireTimes rotationFlag store).walk l.laserNum l.blockNum
    (⟨l.offset, packetNum * l.blockNum * l.laserNum, pointData⟩, 0)

def bodyAzimuth : UInt16 :=
  match l.blockNum with
  | 0 => 0
  | n + 1 => (readU16 env packet (l.offset + (l.headSize + l.unitSize * l.laserNum) * n + l.azimuthAt)).val

variable {env packet l fireTimes rotationFlag store} {packetNum : ℕ} {pointData : ℕ → PointDecodeData}

lemma mechanicalWalk_azimuth : (mechanicalWalk env packet l fireTimes rotationFlag store packetNum pointData).val.2 =
    bodyAzimuth env packet l := by
  rw [mechanicalWalk, BlockReader.walk_val, bodyAzimuth]
  cases l.blockNum with
  | zero => rfl
  | succ n =>
    simp only [BlockReader.finishBlocks, BlockReader.headAt, mechanicalReader, val_bind, val_pure]
    rfl

lemma mechanicalWalk_blockAzimuths {Pt : Type} {frame : LidarDecodedFrame Pt} (hfire : ∀ b j, fireTimes b j = none)
    (hstore : ∀ o slot, (store o slot).val.azimuth = slot.azimuth) (hblock : frame.blockNum = l.blockNum)
    (hlaser : frame.laserNum = l.laserNum) (hper : frame.perPointsNum = l.blockNum * l.laserNum)
    (hdata : frame.pointData =
      (mechanicalWalk env packet l fireTimes rotationFlag store packetNum pointData).val.1.slots) :
    BlockAzimuths frame packetNum := by
  rw [mechanicalWalk, BlockReader.walk_val, ← hblock, ← hlaser] at hdata
  rw [← hblock, ← hlaser] at hper
  refine blockAzimuths_of_filled hper hdata fun b j old => ?_
  simp only [BlockReader.unitAt, mechanicalReader, val_bind, hstore, hfire, unitAzimuth, val_pure]
  exact ⟨_, rfl⟩

/-- Where bytes are read freely, what is left are the accesses to the slots. -/
lemma allows_mechanicalWalk {bounds : Bounds} (hbyte : ∀ o, bounds.byte o)
    (hfire : ∀ b j time, fireTimes b j = some time → AllLog bounds.Allows time)
    (hstore : ∀ o slot, AllLog bounds.Allows (store o slot)) :
    AllLog bounds.Allows (mechanicalWalk env packet l fireTimes rotationFlag store packetNum pointData) ↔
      ∀ b < l.blockNum, ∀ j < l.laserNum,
        bounds.pointData (packetNum * l.blockNum * l.laserNum + l.laserNum * b + j) := by
  have hazimuth (b j : ℕ) (u16Azimuth : UInt16) :
      AllLog bounds.Allows (unitAzimuth rotationFlag u16Azimuth (fireTimes b j)) := by
    cases htime : fireTimes b j with
    | none => exact allLog_pure _
    | some time => exact allLog_bind.mpr ⟨hfire b j time htime, allLog_pure _⟩
  rw [mechanicalWalk, BlockReader.allLog_walk]
  simp only [BlockReader.unitAt, mechanicalReader, allLog_bind, hazimuth, allows_readU16, allows_readU8, hbyte, hstore,
    allLog_pure, implies_true, and_self, true_and, Bounds.Allows]

end Body

lemma GeneralParser.allows_fireTimes {bounds : Bounds} (g : GeneralParser) (b j : ℕ) (time : Logged DecodeEvent ℚ)
    (h : g.fireTimes b j = some time) : AllLog bounds.Allows time := by
  rw [GeneralParser.fireTimes] at h
  split_ifs at h
  obtain rfl := Option.some.inj h
  exact Calibration.allows_getFiretimesCorrection

end HesaiSdk.Parsing
