import HesaiSdk.UdpProtocol.V43

/-! The packets of the ATX repeat the layout of those of the AT128; their tail also holds a frame id. -/

namespace HesaiSdk.UdpProtocol.V47

open Library Lidar

abbrev Header := V43.Header

abbrev ChnUnit := V43.ChnUnit

def sizeofBodyAzimuth : ℕ := 2

def sizeofBodyFineAzimuth : ℕ := 1

def sizeofBodyChnUnit : ℕ := 4

section Reading

variable (env : Environment) (packet : UdpPacket)

def readHeader : Logged DecodeEvent Header := V43.readHeader env packet

def headerAt : Header := (readHeader env packet).val

def getMicroLidarTime (tail : ℕ) : Logged DecodeEvent UInt64 := V43.getMicroLidarTime env packet tail

def readFrameId (tail : ℕ) : Logged DecodeEvent UInt8 := readU8 env packet (tail + 10)

def readMotorSpeed (tail : ℕ) : Logged DecodeEvent UInt16 := readU16 env packet (tail + 18)

def readReturnMode (tail : ℕ) : Logged DecodeEvent UInt8 := readU8 env packet (tail + 24)

def isDualReturn (returnMode : UInt8) : Bool := returnMode == 0x39

def readChnUnit (o : ℕ) : Logged DecodeEvent ChnUnit := V43.readChnUnit env packet o

end Reading

end HesaiSdk.UdpProtocol.V47
