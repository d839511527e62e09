import HesaiSdk.UdpProtocol.V43

/-! The messages of the ET lidars. -/

namespace HesaiSdk.UdpProtocol

open Library Lidar

/-- A pointer that is moved back may leave the buffer. -/
def pointerBack (packetSize trailer : ℕ) : ℕ := (packetSize + 2 ^ 64 - trailer) % 2 ^ 64

lemma pointerBack_of_le {packetSize trailer : ℕ} (hle : trailer ≤ packetSize) (hsize : packetSize < 2 ^ 16) :
    pointerBack packetSize trailer = packetSize - trailer := by
  rw [pointerBack]
  omega

/-- What `DecodePacket` of the ET lidars goes by, apart from the body. -/
structure EtMessage where
  laserNum : ℕ
  blockNum : ℕ
  seqNum : ℕ
  perPointsNum : ℕ
  distUnit : UInt8
  reserved2 : UInt8
  tailOffset : ℕ
  seqNumOffset : ℕ
  echoModeOffset : Option ℕ
  utcOffset : ℕ

namespace EtMessage

variable (m : EtMessage)

def hasSeqNum : Bool := m.reserved2 &&& 0x01 ≠ 0

def getDistUnit : ℚ := m.distUnit.toNat / 1000

def frameIdOffset : ℕ := m.tailOffset + 9

def shutDownOffset : ℕ := m.tailOffset + 10

def timestampOffset : ℕ := m.utcOffset + 6

def getMicroLidarTime (env : Environment) (packet : UdpPacket) : Logged DecodeEvent UInt64 :=
  getMicroLidarTimeU64 env packet V43.tmYear m.utcOffset m.timestampOffset

end EtMessage

/-- The fields of `HS_LIDAR_HEADER_ET_V4`, which are those of `HS_LIDAR_HEADER_ET_V5`. -/
structure EtHeader where
  laserNum : UInt8
  blockNum : UInt8
  distUnit : UInt8
  seqNum : UInt8
  reserved2 : UInt8

namespace EtHeader

variable (h : EtHeader)

def getLaserNum : ℕ := h.laserNum.toNat

def getBlockNum : ℕ := h.blockNum.toNat

def getSeqNum : ℕ := h.seqNum.toNat

def read (env : Environment) (packet : UdpPacket) : Logged DecodeEvent EtHeader := do
  let laserNum ← readU8 env packet 6
  let blockNum ← readU8 env packet 7
  let distUnit ← readU8 env packet 9
  let seqNum ← readU8 env packet 11
  let reserved2 ← readU8 env packet 12
  pure ⟨laserNum, blockNum, distUnit, seqNum, reserved2⟩

def headerAt (env : Environment) (packet : UdpPacket) : EtHeader := (read env packet).val

/-- The message with the body checksum behind the body. -/
def message (trailer : ℕ) (packetSize : ℕ) : EtMessage where
  laserNum := h.getLaserNum
  blockNum := h.getBlockNum
  seqNum := h.getSeqNum
  perPointsNum := h.getBlockNum * h.getLaserNum
  distUnit := h.distUnit
  reserved2 := h.reserved2
  tailOffset := pointerBack packetSize (trailer + 23)
  seqNumOffset := pointerBack packetSize trailer
  echoModeOffset := some (pointerBack packetSize (trailer + 23) + 11)
  utcOffset := pointerBack packetSize (trailer + 23) + 12

end EtHeader

namespace V24

def sizeofSeq2 : ℕ := 4

def sizeofLasterUnit : ℕ := 4

def sizeSum (h : EtHeader) : ℕ :=
  6 + 7 + (2 + (sizeofLasterUnit * (h.getLaserNum / h.getSeqNum) + 4) * h.getSeqNum) * h.getBlockNum +
    4 + 23 + 4 + 4

/-- The sum is returned as a `uint16_t`. -/
def getPacketSize (h : EtHeader) : ℕ := sizeSum h % 2 ^ 16

def message (h : EtHeader) : EtMessage := h.message 8 (getPacketSize h)

end V24

namespace V25

def sizeofSeq3 : ℕ := 5

def sizeofLasterUnit : ℕ := 3

def sizeSum (h : EtHeader) : ℕ :=
  6 + 7 + (2 + (sizeofLasterUnit * (h.getLaserNum / h.getSeqNum) + 5) * h.getSeqNum) * h.getBlockNum +
    4 + 23 + 4 + 4 + 32

def getPacketSize (h : EtHeader) : ℕ := sizeSum h % 2 ^ 16

/-- The tail and the sequence number are followed by a checksum and the signature. -/
def message (h : EtHeader) : EtMessage := h.message 40 (getPacketSize h)

def mirrorIndexOffset (h : EtHeader) : ℕ := (message h).tailOffset + 3

end V25

namespace V26

def sizeofSeq2 : ℕ := 6

def sizeofLasterUnit1 : ℕ := 3

def sizeofLasterUnit2 : ℕ := 4

/-- `HS_LIDAR_HEADER_ET_V6` -/
structure Header where
  laserNum : UInt16
  blockNum : UInt8
  distUnit : UInt8
  seqNum : UInt8
  secRetNum : UInt8
  reserved2 : UInt8

namespace Header

variable (h : Header)

def getLaserNum : ℕ := h.laserNum.toNat

def getBlockNum : ℕ := h.blockNum.toNat

def getSeqNum : ℕ := h.seqNum.toNat

def getSecRetNum : ℕ := h.secRetNum.toNat

def perPointsNum : ℕ := (h.getLaserNum + h.getSecRetNum * h.getSeqNum) * h.getBlockNum

def read (env : Environment) (packet : UdpPacket) : Logged DecodeEvent Header := do
  let laserNum ← readU16 env packet 6
  let blockNum ← readU8 env packet 8
  let distUnit ← readU8 env packet 10
  let seqNum ← readU8 env packet 11
  let secRetNum ← readU8 env packet 12
  let reserved2 ← readU8 env packet 13
  pure ⟨laserNum, blockNum, distUnit, seqNum, secRetNum, reserved2⟩

def headerAt (env : Environment) (packet : UdpPacket) : Header := (read env packet).val

def sizeSum : ℕ :=
  6 + 8 + (2 + (sizeofSeq2 + sizeofLasterUnit1 * (h.getLaserNum / h.getSeqNum) +
    sizeofLasterUnit2 * h.getSecRetNum) * h.getSeqNum) * h.getBlockNum + 22 + 4 + 32

def getPacketSize : ℕ := h.sizeSum % 2 ^ 16

def message : EtMessage where
  laserNum := h.getLaserNum
  blockNum := h.getBlockNum
  seqNum := h.getSeqNum
  perPointsNum := h.perPointsNum
  distUnit := h.distUnit
  reserved2 := h.reserved2
  tailOffset := pointerBack h.getPacketSize (36 + 22)
  seqNumOffset := pointerBack h.getPacketSize 36
  echoModeOffset := none
  utcOffset := pointerBack h.getPacketSize (36 + 22) + 11

end Header

end V26

end HesaiSdk.UdpProtocol
