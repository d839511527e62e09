import HesaiSdk.UdpProtocol.PacketBytes

namespace HesaiSdk.UdpProtocol.V43

open Library Lidar

def sizeofPreHeader : ℕ := 6

def sizeofHeader : ℕ := 6

def sizeofBodyAzimuth : ℕ := 2

def sizeofBodyFineAzimuth : ℕ := 1

def sizeofBodyChnUnit : ℕ := 4

def sizeofBodyCrc : ℕ := 4

def sizeofTail : ℕ := 32

structure Header where
  laserNum : UInt8
  blockNum : UInt8
  distUnit : UInt8
  status : UInt8
deriving DecidableEq

namespace Header

variable (h : Header)

def hasSeqNum : Bool := h.status &&& 0x01 ≠ 0

def getLaserNum : ℕ := h.laserNum.toNat

def getBlockNum : ℕ := h.blockNum.toNat

def getDistUnit : ℚ := h.distUnit.toNat / 1000

def bodyOffset : ℕ := sizeofPreHeader + sizeofHeader

def tailOffset : ℕ :=
  bodyOffset + (sizeofBodyAzimuth + sizeofBodyFineAzimuth + sizeofBodyChnUnit * h.getLaserNum) *
    h.getBlockNum + sizeofBodyCrc

def seqNumOffset : ℕ := h.tailOffset + sizeofTail

end Header

section Reading

variable (env : Environment) (packet : UdpPacket)

def readHeader : Logged DecodeEvent Header := do
  let laserNum ← readU8 env packet sizeofPreHeader
  let blockNum ← readU8 env packet (sizeofPreHeader + 1)
  let distUnit ← readU8 env packet (sizeofPreHeader + 3)
  let status ← readU8 env packet (sizeofPreHeader + 5)
  pure ⟨laserNum, blockNum, distUnit, status⟩

def headerAt : Header := (readHeader env packet).val

def tmYear (year : UInt8) : Option ℤ :=
  some (if 200 ≤ year.toNat then year.toNat - 100 else year.toNat : ℕ)

def getMicroLidarTime (tail : ℕ) : Logged DecodeEvent UInt64 :=
  getMicroLidarTimeU64 env packet tmYear (tail + 26) (tail + 20)

def isDualReturn (returnMode : UInt8) : Bool := returnMode == 0x39

structure ChnUnit where
  distance : UInt16
  reflectivity : UInt8
  confidence : UInt8
deriving DecidableEq

def readChnUnit (o : ℕ) : Logged DecodeEvent ChnUnit := do
  let distance ← readU16 env packet o
  let reflectivity ← readU8 env packet (o + 2)
  let confidence ← readU8 env packet (o + 3)
  pure ⟨distance, reflectivity, confidence⟩

end Reading

end HesaiSdk.UdpProtocol.V43
