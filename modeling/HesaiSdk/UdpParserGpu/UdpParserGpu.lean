import HesaiSdk.UdpParser.Parser

/-! The parsers of the graphics card are made by the name of the lidar. -/

namespace HesaiSdk.Parsing

open Lidar

inductive ParserGpuType where
  | udpP40
  | udpP64
  | udp14
  | udp25
  | udp31
  | udp32
  | udp43
  | udp47
  | udp61
  | udp72

/-- The classes of parsers of the card: their constructors, and the new `points` of a frame. -/
structure GeneralParserGpu (G Pt : Type) where
  new : ParserGpuType → G
  computeXYZI : G → LidarDecodedFrame Pt → G × (ℕ → Pt)

/-- `m_generalParserGpu` -/
abbrev UdpParserGpu (G : Type) : Type := Option G

namespace UdpParserGpu

variable {G Pt : Type} (gpu : GeneralParserGpu G Pt) (g : UdpParserGpu G)

def versionClass (major minor : UInt8) : Option ParserGpuType :=
  match major.toNat, minor.toNat with
  | 4, 1 | 4, 3 => some .udp43
  | 1, 1 | 1, 4 => some .udp14
  | 2, 5 => some .udp25
  | 3, 1 => some .udp31
  | 3, 2 => some .udp32
  | 6, 1 => some .udp61
  | 7, 2 => some .udp72
  | _, _ => none

def creatGeneralParser (major minor : UInt8) : UdpParserGpu G :=
  match g with
  | some p => some p
  | none => (versionClass major minor).map gpu.new

/-- `ComputeXYZI`, which returns 0 whatever the card did. The parser is called also where none has been made. -/
def computeXYZI (frame : LidarDecodedFrame Pt) : Option (G × (ℕ → Pt)) :=
  (creatGeneralParser gpu g frame.majorVersion frame.minorVersion).map fun p => gpu.computeXYZI p frame

variable {gpu}

end UdpParserGpu

end HesaiSdk.Parsing
