import HesaiSdk.UdpProtocol.V61

/-! The packets of the FT120, each a column of channels. -/

namespace HesaiSdk.UdpProtocol.V72

open Library Lidar

def sizeofPreHeader : ℕ := 6

def sizeofHeader : ℕ := 19

def sizeofBodyChnUnit : ℕ := 5

structure Header where
  distUnit : UInt8
  channelNum : UInt16
deriving DecidableEq

namespace Header

variable (h : Header)

def getChannelNum : ℕ := h.channelNum.toNat

def getDistUnit : ℚ := h.distUnit.toNat / 1000

def bodyOffset : ℕ := sizeofPreHeader + sizeofHeader

def tailOffset : ℕ := bodyOffset + sizeofBodyChnUnit * h.getChannelNum

end Header

section Reading

variable (env : Environment) (packet : UdpPacket)

def readHeader : Logged DecodeEvent Header := do
  let distUnit ← readU8 env packet 13
  let channelNum ← readU16 env packet 15
  pure ⟨distUnit, channelNum⟩

def headerAt : Header := (readHeader env packet).val

def readColumnId (tail : ℕ) : Logged DecodeEvent UInt16 := readU16 env packet (tail + 7)

def getMicroLidarTime (tail : ℕ) : Logged DecodeEvent UInt64 :=
  getMicroLidarTimeU64 env packet V61.tmYear (tail + 14) (tail + 20)

def readSequenceNum (tail : ℕ) : Logged DecodeEvent UInt32 := readU32 env packet (tail + 25)

def getDistance (o : ℕ) : Logged DecodeEvent UInt16 := readU16 env packet o

def getReflectivity (o : ℕ) : Logged DecodeEvent UInt8 := readU8 env packet (o + 2)

end Reading

end HesaiSdk.UdpProtocol.V72
