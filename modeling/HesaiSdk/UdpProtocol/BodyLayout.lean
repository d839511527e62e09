import HesaiSdk.UdpProtocol.V61

/-! The messages of the QT and of the Pandar40 and Pandar64, which lay out their bodies in one way. -/

namespace HesaiSdk.UdpProtocol

open Library Lidar

/-- Blocks of a head, with the azimuth at `azimuthAt`, and of `laserNum` units. -/
structure BodyLayout where
  offset : ℕ
  azimuthAt : ℕ
  headSize : ℕ
  unitSize : ℕ
  laserNum : ℕ
  blockNum : ℕ

def BodyLayout.endOffset (l : BodyLayout) : ℕ := l.offset + (l.headSize + l.unitSize * l.laserNum) * l.blockNum

structure BodyHeader where
  laserNum : UInt8
  blockNum : UInt8
  distUnit : UInt8
  status : UInt8
deriving DecidableEq

def BodyHeader.getDistUnit (h : BodyHeader) : ℚ := h.distUnit.toNat / 1000

variable (env : Environment) (packet : UdpPacket)

namespace V31

/-- `HS_LIDAR_HEADER_QT_V1` behind the pre-header. -/
def readHeader : Logged DecodeEvent BodyHeader := do
  let laserNum ← readU8 env packet 6
  let blockNum ← readU8 env packet 7
  let distUnit ← readU8 env packet 9
  pure ⟨laserNum, blockNum, distUnit, 0⟩

def layout (h : BodyHeader) : BodyLayout := ⟨12, 0, 2, 4, h.laserNum.toNat, h.blockNum.toNat⟩

def getMicroLidarTime (tail : ℕ) : Logged DecodeEvent UInt64 :=
  getMicroLidarTimeU64 env packet V61.tmYear (tail + 18) (tail + 12)

def isDualReturn (returnMode : UInt8) : Bool := returnMode == 0x39

end V31

namespace V32

/-- `HS_LIDAR_HEADER_QT_V2` behind the pre-header. -/
def readHeader : Logged DecodeEvent BodyHeader := do
  let laserNum ← readU8 env packet 6
  let blockNum ← readU8 env packet 7
  let distUnit ← readU8 env packet 9
  let status ← readU8 env packet 11
  pure ⟨laserNum, blockNum, distUnit, status⟩

def hasSeqNum (h : BodyHeader) : Bool := h.status &&& 0x01 ≠ 0

def hasFunctionSafety (h : BodyHeader) : Bool := h.status &&& 0x04 ≠ 0

def hasConfidenceLevel (h : BodyHeader) : Bool := h.status &&& 0x10 ≠ 0

def hasSelfDefine (h : BodyHeader) : Bool := h.status &&& 0x40 ≠ 0

def layout (h : BodyHeader) : BodyLayout :=
  ⟨12, 0, 2, if hasConfidenceLevel h then 4 else 3, h.laserNum.toNat, h.blockNum.toNat⟩

/-- The tail lies behind the checksum of the body and the function safety. -/
def tailOffset (h : BodyHeader) : ℕ := (layout h).endOffset + 4 + if hasFunctionSafety h then 17 else 0

def sizeofTail : ℕ := 26

def getMicroLidarTime (tail : ℕ) : Logged DecodeEvent UInt64 :=
  getMicroLidarTimeU64 env packet V61.tmYear (tail + 15) (tail + 21)

end V32

namespace P64

/-- `HS_LIDAR_L64_Header` -/
def readHeader : Logged DecodeEvent BodyHeader := do
  let laserNum ← readU8 env packet 2
  let blockNum ← readU8 env packet 3
  let distUnit ← readU8 env packet 5
  pure ⟨laserNum, blockNum, distUnit, 0⟩

def layout (h : BodyHeader) : BodyLayout := ⟨8, 0, 2, 3, h.laserNum.toNat, h.blockNum.toNat⟩

def sizeofTail : ℕ := 22

def getMicroLidarTime (tail : ℕ) : Logged DecodeEvent UInt64 :=
  getMicroLidarTimeU64 env packet V61.tmYear (tail + 16) (tail + 10)

end P64

namespace P40

def LASERNUM : ℕ := 40

def BLOCKNUM : ℕ := 10

def DISTANCEUNIT : ℚ := 4 / 1000

/-- Each block starts with the delimiter again. -/
def layout : BodyLayout := ⟨0, 2, 4, 3, LASERNUM, BLOCKNUM⟩

/-- `HS_LIDAR_TAIL_L40` is laid out like `HS_LIDAR_TAIL_L64`. -/
def sizeofTail : ℕ := P64.sizeofTail

def getMicroLidarTime (tail : ℕ) : Logged DecodeEvent UInt64 := P64.getMicroLidarTime env packet tail

end P40

end HesaiSdk.UdpProtocol
