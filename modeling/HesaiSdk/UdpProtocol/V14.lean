import HesaiSdk.UdpProtocol.PacketBytes

namespace HesaiSdk.UdpProtocol.V14

open Library Library.ByteLayout Lidar

def sizeofPreHeader : ℕ := 6

def sizeofHeader : ℕ := 6

def sizeofBodyAzimuth : ℕ := 2

def sizeofBodyChnUnit : ℕ := 4

def sizeofBodyChnUnitNoConf : ℕ := 3

def sizeofBodyCrc : ℕ := 4

def sizeofFuncSafety : ℕ := 17

def sizeofCyberSecurity : ℕ := 32

def sizeofTail : ℕ := 26

def sizeofTailSeqNum : ℕ := 4

def sizeofTailImu : ℕ := 22

def sizeofTailCrc : ℕ := 4

structure Header where
  laserNum : UInt8
  blockNum : UInt8
  distUnit : UInt8
  status : UInt8
deriving DecidableEq

namespace Header

variable (h : Header)

def hasSeqNum : Bool := h.status &&& 0x01 ≠ 0

def hasImu : Bool := h.status &&& 0x02 ≠ 0

def hasFuncSafety : Bool := h.status &&& 0x04 ≠ 0

def hasCyberSecurity : Bool := h.status &&& 0x08 ≠ 0

def hasConfidenceLevel : Bool := h.status &&& 0x10 ≠ 0

def getLaserNum : ℕ := h.laserNum.toNat

def getBlockNum : ℕ := h.blockNum.toNat

def getDistUnit : ℚ := h.distUnit.toNat / 1000

def unitSize : ℕ := if h.hasConfidenceLevel then sizeofBodyChnUnit else sizeofBodyChnUnitNoConf

def blockSize : ℕ := sizeofBodyAzimuth + h.unitSize * h.getLaserNum

def bodyOffset : ℕ := sizeofPreHeader + sizeofHeader

def funcSafetyOffset : ℕ := bodyOffset + h.blockSize * h.getBlockNum + sizeofBodyCrc

def tailOffset : ℕ := h.funcSafetyOffset + if h.hasFuncSafety then sizeofFuncSafety else 0

def seqNumOffset : ℕ := h.tailOffset + sizeofTail

/-- `GetPacketSize`, a `uint16_t`. -/
def getPacketSize : ℕ :=
  (sizeofPreHeader + sizeofHeader + h.blockSize * h.getBlockNum + sizeofBodyCrc +
    (if h.hasFuncSafety then sizeofFuncSafety else 0) +
    (if h.hasCyberSecurity then sizeofCyberSecurity else 0) + sizeofTail + sizeofTailCrc +
    (if h.hasSeqNum then sizeofTailSeqNum else 0) + (if h.hasImu then sizeofTailImu else 0)) % 65536

end Header

section Reading

variable (env : Environment) (packet : UdpPacket)

def readHeader : Logged DecodeEvent Header := do
  let laserNum ← readU8 env packet sizeofPreHeader
  let blockNum ← readU8 env packet (sizeofPreHeader + 1)
  let distUnit ← readU8 env packet (sizeofPreHeader + 3)
  let status ← readU8 env packet (sizeofPreHeader + 5)
  pure ⟨laserNum, blockNum, distUnit, status⟩

def headerAt : Header := (readHeader env packet).val

def getLidarState (o : ℕ) : Logged DecodeEvent ℤ := do
  let status ← readU8 env packet (o + 1)
  pure ((status >>> 5) &&& 0x07).toNat

def tmYear (year : UInt8) : Option ℤ := if year < 70 then none else some year.toNat

def getMicroLidarTime (tail : ℕ) : Logged DecodeEvent UInt64 :=
  getMicroLidarTimeU64 env packet tmYear (tail + 15) (tail + 21)

def isDualReturn (returnMode : UInt8) : Bool := returnMode == 0x39

def getOperationMode (runningMode : UInt8) : UInt8 := runningMode &&& 0x0f

/-- `getAngleState`: the shift amount `2 * (7 - blockIndex)` is negative from block 8 on. -/
def getAngleState (tail blockIndex : ℕ) : Logged DecodeEvent UInt8 := do
  let azimuthFlag ← readU16 env packet (tail + 9)
  let shift : ℤ := 2 * (7 - blockIndex)
  note (.angleShift shift)
  pure ((azimuthFlag.toNat >>> shift.toNat) % 4).toUInt8

/-- One `HS_LIDAR_BODY_CHN_UNIT_ME_V4` or, without confidence, `HS_LIDAR_BODY_CHN_UNIT_NO_CONF_ME_V4`. -/
structure ChnUnit where
  distance : UInt16
  reflectivity : UInt8
  confidence : Option UInt8
deriving DecidableEq

def readChnUnit (withConfidence : Bool) (o : ℕ) : Logged DecodeEvent ChnUnit := do
  let distance ← readU16 env packet o
  let reflectivity ← readU8 env packet (o + 2)
  if withConfidence then do
    let confidence ← readU8 env packet (o + 3)
    pure ⟨distance, reflectivity, some confidence⟩
  else pure ⟨distance, reflectivity, none⟩

end Reading

end HesaiSdk.UdpProtocol.V14
