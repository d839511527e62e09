import HesaiSdk.UdpProtocol.PacketBytes

namespace HesaiSdk.UdpProtocol.V61

open Library Lidar

def sizeofPreHeader : ℕ := 6

def sizeofHeader : ℕ := 6

def sizeofBodyAzimuth : ℕ := 2

def sizeofBodyChannelData : ℕ := 4

structure Header where
  laserNum : UInt8
  blockNum : UInt8
  distUnit : UInt8
deriving DecidableEq

namespace Header

variable (h : Header)

def getLaserNum : ℕ := h.laserNum.toNat

def getBlockNum : ℕ := h.blockNum.toNat

def getDistUnit : ℚ := h.distUnit.toNat / 1000

def bodyOffset : ℕ := sizeofPreHeader + sizeofHeader

def tailOffset : ℕ :=
  bodyOffset + (sizeofBodyAzimuth + sizeofBodyChannelData * h.getLaserNum) * h.getBlockNum

end Header

section Reading

variable (env : Environment) (packet : UdpPacket)

def readHeader : Logged DecodeEvent Header := do
  let laserNum ← readU8 env packet sizeofPreHeader
  let blockNum ← readU8 env packet (sizeofPreHeader + 1)
  let distUnit ← readU8 env packet (sizeofPreHeader + 3)
  pure ⟨laserNum, blockNum, distUnit⟩

def headerAt : Header := (readHeader env packet).val

def tmYear (year : UInt8) : Option ℤ :=
  let tmYear := year.toNat + 100
  some (if 200 ≤ tmYear then tmYear - 100 else tmYear : ℕ)

def getMicroLidarTime (tail : ℕ) : Logged DecodeEvent UInt64 :=
  getMicroLidarTimeU64 env packet tmYear (tail + 13) (tail + 19)

def isDualReturn (returnMode : UInt8) : Bool := returnMode == 0x39

structure ChannelData where
  distance : UInt16
  reflectivity : UInt8
  confidence : UInt8
deriving DecidableEq

def readChannelData (o : ℕ) : Logged DecodeEvent ChannelData := do
  let distance ← readU16 env packet o
  let reflectivity ← readU8 env packet (o + 2)
  let confidence ← readU8 env packet (o + 3)
  pure ⟨distance, reflectivity, confidence⟩

end Reading

end HesaiSdk.UdpProtocol.V61
