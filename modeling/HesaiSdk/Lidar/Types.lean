import Mathlib.Algebra.Order.Floor.Ring
import Mathlib.Data.Rat.Floor
import Mathlib.Tactic.Lemma

/-! The data of one frame. The C++ `float` and `double` values are exact rationals. -/

namespace HesaiSdk.Lidar

def kMaxPointsNumPerPacket : ℕ := 512

def kMaxPacketNumPerFrame : ℕ := 5000

def kMaxPointsNumPerFrame : ℕ := kMaxPointsNumPerPacket * kMaxPacketNumPerFrame

def kResolutionInt : ℕ := 100

def kResolutionFloat : ℚ := 100

def kHalfCircleFloat : ℚ := 18000

def kMicrosecondToSecond : ℚ := 1000000

def kFineResolutionInt : ℤ := 256

def kFineResolutionFloat : ℚ := 256

def kAllFineResolutionFloat : ℚ := kResolutionFloat * kFineResolutionFloat

def kPcapPlaySynchronizationCount : UInt8 := 100

def kMinPointsOfOneFrame : ℕ := 1000

def kFaultMessageLength : ℤ := 99

def kPacketBufferSize : ℕ := 36000

def kBufSize : ℕ := 1500

/-- Conversion of a `float` to an integer: towards zero. -/
def truncate (q : ℚ) : ℤ := if 0 ≤ q then ⌊q⌋ else ⌈q⌉

lemma truncate_of_nonneg {q : ℚ} (h : 0 ≤ q) : truncate q = ⌊q⌋ := if_pos h

lemma truncate_of_neg {q : ℚ} (h : q < 0) : truncate q = ⌈q⌉ := if_neg (not_le.mpr h)

/-- What the parsers do with the point type `T_Point` of the caller. -/
class Point (Pt : Type) where
  zeroed : Pt
  setX : Pt → ℚ → Pt
  setY : Pt → ℚ → Pt
  setZ : Pt → ℚ → Pt
  setIntensity : Pt → UInt8 → Pt
  setConfidence : Pt → UInt8 → Pt
  setTimestamp : Pt → ℚ → Pt
  setRing : Pt → ℕ → Pt

structure LidarPointXYZICRT where
  x : ℚ
  y : ℚ
  z : ℚ
  intensity : ℚ
  confidence : ℚ
  ring : ℕ
  timestamp : ℚ
deriving DecidableEq, Inhabited

instance : Point LidarPointXYZICRT where
  zeroed := ⟨0, 0, 0, 0, 0, 0, 0⟩
  setX p v := { p with x := v }
  setY p v := { p with y := v }
  setZ p v := { p with z := v }
  setIntensity p v := { p with intensity := v.toNat }
  setConfidence p v := { p with confidence := v.toNat }
  setTimestamp p v := { p with timestamp := v }
  setRing p v := { p with ring := v }

structure LidarDecodeConfig where
  fovStart : ℤ
  fovEnd : ℤ
deriving DecidableEq

instance : Inhabited LidarDecodeConfig := ⟨⟨-1, -1⟩⟩

structure PointDecodeData where
  azimuth : ℚ
  elevation : ℚ
  distances : UInt16
  reflectivities : UInt8
  confidence : UInt8
  chnIndex : UInt8
  mirrorIndex : UInt8
deriving DecidableEq, Inhabited

structure LidarDecodedFrame (Pt : Type) where
  hostTimestamp : UInt64
  sensorTimestamp : ℕ → UInt64
  majorVersion : UInt8
  minorVersion : UInt8
  returnMode : UInt16
  spinSpeed : UInt16
  pointsNum : ℕ
  packetNum : ℕ
  points : ℕ → Pt
  pointData : ℕ → PointDecodeData
  blockNum : ℕ
  laserNum : ℕ
  perPointsNum : ℕ
  scanComplete : Bool
  distanceUnit : ℚ
  frameIndex : ℤ
  lidarState : ℤ
  workMode : ℤ
  useTimestampType : ℕ
  config : LidarDecodeConfig

namespace LidarDecodedFrame

variable {Pt : Type}

/-- The constructor; the arrays are whatever the allocated memory held. -/
def new (sensorTimestamp : ℕ → UInt64) (points : ℕ → Pt) (pointData : ℕ → PointDecodeData) :
    LidarDecodedFrame Pt where
  hostTimestamp := 0
  sensorTimestamp := sensorTimestamp
  majorVersion := 0
  minorVersion := 0
  returnMode := 0
  spinSpeed := 0
  pointsNum := 0
  packetNum := 0
  points := points
  pointData := pointData
  blockNum := 0
  laserNum := 0
  perPointsNum := 0
  scanComplete := false
  distanceUnit := 0
  frameIndex := 0
  lidarState := -1
  workMode := -1
  useTimestampType := 0
  config := default

def update (frame : LidarDecodedFrame Pt) : LidarDecodedFrame Pt :=
  { frame with
    hostTimestamp := 0
    majorVersion := 0
    minorVersion := 0
    returnMode := 0
    spinSpeed := 0
    pointsNum := 0
    packetNum := 0
    blockNum := 0
    laserNum := 0
    perPointsNum := 0
    scanComplete := false
    distanceUnit := 0
    lidarState := -1
    workMode := -1
    frameIndex := frame.frameIndex + 1 }

@[simp] lemma update_packetNum (frame : LidarDecodedFrame Pt) : frame.update.packetNum = 0 := rfl

@[simp] lemma update_pointsNum (frame : LidarDecodedFrame Pt) : frame.update.pointsNum = 0 := rfl

@[simp] lemma update_points (frame : LidarDecodedFrame Pt) : frame.update.points = frame.points := rfl

@[simp] lemma update_scanComplete (frame : LidarDecodedFrame Pt) : frame.update.scanComplete = false := rfl

@[simp] lemma update_useTimestampType (frame : LidarDecodedFrame Pt) :
    frame.update.useTimestampType = frame.useTimestampType := rfl

instance [Inhabited Pt] : Inhabited (LidarDecodedFrame Pt) := ⟨new default default default⟩

end LidarDecodedFrame

structure UdpPacket where
  buffer : Fin kBufSize → UInt8
  packetLen : ℤ
  isTimeout : Bool
  recvTimestamp : UInt64
  ip : UInt32
  port : UInt16
deriving Inhabited

namespace UdpPacket

def ofBytes (bytes : List UInt8) : UdpPacket :=
  { (default : UdpPacket) with buffer := fun i => bytes.getD i 0, packetLen := bytes.length }

end UdpPacket

end HesaiSdk.Lidar
