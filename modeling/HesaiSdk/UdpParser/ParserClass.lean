import HesaiSdk.Library.BufferRead
import HesaiSdk.UdpParser.Redecoding
import HesaiSdk.UdpParser.Udp24Correction
import HesaiSdk.UdpParser.Udp47Parser
import HesaiSdk.UdpParser.Udp72Parser

/-! The parser classes with their constructors and the loaders of their calibration. -/

namespace HesaiSdk.Parsing

open Library Library.BufferRead Library.TextStream Lidar UdpProtocol

/-- The bytes of the file, if it can be opened, what lies behind them on the heap, and the stack. -/
structure CorrectionFile where
  path : List Char
  contents : Option (List UInt8)
  behind : List UInt8
  stack : LoadMemory

/-- `LoadCorrectionFile` of all classes but the 2.4 parser; the result is logged only. -/
def loadFile {σ : Type} (loadCorrectionString : LoadMemory → List UInt8 → σ → Option (σ × ℤ)) (f : CorrectionFile)
    (p : σ) : Option (σ × ℤ) :=
  match f.contents with
  | none => some (p, -1)
  | some bytes => loadCorrectionString f.stack (bytes ++ f.behind) p

/-- The constructor: what it does not assign is what the memory held before. -/
def GeneralParser.construct (memory : GeneralParser) : GeneralParser :=
  { memory with
    enableUpdateMonitorInfo := false
    lastAzimuth := 0
    lastLastAzimuth := 0
    totalPacketCount := 0
    enablePacketLossTool := false
    enablePacketTimelossTool := false
    packetTimelossToolContinue := false
    seqnumLossMessage := {}
    timeLossMessage := {}
    useAngle := true
    rotationFlag := 1
    elevationCorrection := Function.update memory.elevationCorrection 0 0
    azimuthCollection := Function.update memory.azimuthCollection 0 0
    opticalCenter := ⟨0, 0, 0⟩
    lidarType := "" }

def GeneralParser.loadCorrectionString (stack : LoadMemory) (memory : List UInt8) (p : GeneralParser) :
    Option (GeneralParser × ℤ) := do
  let text ← cString memory
  let loaded ← Parsing.loadCorrectionString stack text p.toCalibration
  pure ({ p with toCalibration := loaded.parser }, loaded.ret)

/-- `GeneralParser::LoadCorrectionString` in a class that inherits it. -/
def inheritedLoad {σ : Type} (toGeneralParser : σ → GeneralParser) (withGeneralParser : σ → GeneralParser → σ)
    (stack : LoadMemory) (memory : List UInt8) (p : σ) : Option (σ × ℤ) :=
  ((toGeneralParser p).loadCorrectionString stack memory).map fun loaded => (withGeneralParser p loaded.1, loaded.2)

def Udp14Parser.construct (memory : Udp14Parser) : Udp14Parser :=
  { memory with toGeneralParser := memory.toGeneralParser.construct }

/-- The channel configuration is an empty vector. -/
def Udp32Parser.construct (memory : Udp32Parser) : Udp32Parser :=
  { memory with
    toGeneralParser := memory.toGeneralParser.construct
    channelConfigSize := fun _ => 0 }

/-- The ET parsers have a flag of their own, which they clear. -/
def EtParser.construct {Corrections : Type} (constructCorrections : Corrections → Corrections)
    (memory : EtParser Corrections) : EtParser Corrections :=
  { memory with
    toGeneralParser := { memory.toGeneralParser.construct with getCorrectionFile := false }
    corrections := constructCorrections memory.corrections
    lastFrameid := -1 }

def ETCorrections.construct (memory : ETCorrections) : ETCorrections :=
  { memory with header := { memory.header with
    minVersion := 0
    angleDivision := 1 } }

namespace Udp24Parser

/-- `LoadCorrectionFile`, by the last four characters of the path. -/
def loadCorrectionFile (f : CorrectionFile) (p : EtParser ETCorrectionsV4) : EtParser ETCorrectionsV4 × ℤ :=
  if f.path.length < 4 then (p, -1)
  else if f.path.drop (f.path.length - 4) = ['.', 'b', 'i', 'n'] then
    match f.contents with
    | none => (p, -1)
    | some bytes =>
      let (q, ret) := loadCorrectionString (memoryAt (bytes ++ f.behind)) p
      if ret = 0 then ({ q with getCorrectionFile := true }, 0) else (q, -1)
  else if f.path.drop (f.path.length - 4) = ['.', 'c', 's', 'v'] then
    let (q, ret) := loadCorrectionStringCsv (f.contents.map fun bytes => bytes.map fun b => Char.ofNat b.toNat) p
    if ret = 1 then ({ q with getCorrectionFile := true }, 0) else (q, -1)
  else (p, -1)

end Udp24Parser

def Udp43Parser.construct (memory : Udp43Parser) : Udp43Parser where
  toGeneralParser := { memory.toGeneralParser.construct with getCorrectionFile := false }
  corrections := ⟨0, fun _ => 0, fun _ => 0, fun _ => 0, fun _ => 0, fun _ => 0, fun _ => 0⟩

/-- The tables of the calibration are cleared, those of the firing times are not. -/
def Udp47Parser.construct (memory : Udp47Parser) : Udp47Parser where
  toGeneralParser := { memory.toGeneralParser.construct with getCorrectionFile := false }
  corrections := default
  firetimes := memory.firetimes
  lastFrameid := -1

def Udp72Parser.construct (memory : Udp72Parser) : Udp72Parser :=
  { memory with
    toGeneralParser := memory.toGeneralParser.construct
    lastCloumnId := -1 }

/-- A class with the memory that its constructor is given. -/
structure ParserClass (Pt : Type) where
  State : Type
  construct : State → State
  loadCorrectionFile : CorrectionFile → State → Option (State × ℤ)
  loadCorrectionString : LoadMemory → List UInt8 → State → Option (State × ℤ)
  decodePacket : State → LidarDecodedFrame Pt → UdpPacket → Logged DecodeEvent (Decoded State Pt)
  getCorrectionFile : State → Bool

section Classes

variable (env : Environment) (Pt : Type)

/-- The classes that inherit their loaders from `GeneralParser`, and its flag. -/
def inheritingClass {σ : Type} (construct : σ → σ) (toGeneralParser : σ → GeneralParser)
    (withGeneralParser : σ → GeneralParser → σ)
    (decodePacket : σ → LidarDecodedFrame Pt → UdpPacket → Logged DecodeEvent (Decoded σ Pt)) : ParserClass Pt where
  State := σ
  construct := construct
  loadCorrectionFile := loadFile (inheritedLoad toGeneralParser withGeneralParser)
  loadCorrectionString := inheritedLoad toGeneralParser withGeneralParser
  decodePacket := decodePacket
  getCorrectionFile p := (toGeneralParser p).getCorrectionFile

def generalClass (decodePacket : GeneralParser → LidarDecodedFrame Pt → UdpPacket →
    Logged DecodeEvent (Decoded GeneralParser Pt)) : ParserClass Pt :=
  inheritingClass Pt GeneralParser.construct id (fun _ g => g) decodePacket

def etClass {Corrections : Type} (constructCorrections : Corrections → Corrections)
    (loadCorrectionFile : CorrectionFile → EtParser Corrections → Option (EtParser Corrections × ℤ))
    (loadCorrectionString : LoadMemory → List UInt8 → EtParser Corrections → Option (EtParser Corrections × ℤ))
    (decodePacket : EtParser Corrections → LidarDecodedFrame Pt → UdpPacket →
      Logged DecodeEvent (Decoded (EtParser Corrections) Pt)) : ParserClass Pt where
  State := EtParser Corrections
  construct := EtParser.construct constructCorrections
  loadCorrectionFile := loadCorrectionFile
  loadCorrectionString := loadCorrectionString
  decodePacket := decodePacket
  getCorrectionFile p := p.getCorrectionFile

def udp43Class : ParserClass Pt where
  State := Udp43Parser
  construct := Udp43Parser.construct
  loadCorrectionFile := loadFile fun _ memory p => some (p.loadCorrectionString (memoryAt memory))
  loadCorrectionString _ memory p := some (p.loadCorrectionString (memoryAt memory))
  decodePacket p frame packet := p.decodePacket env packet frame
  getCorrectionFile p := p.getCorrectionFile

def udp47Class : ParserClass Pt where
  State := Udp47Parser
  construct := Udp47Parser.construct
  loadCorrectionFile := loadFile fun _ memory p => some (p.loadCorrectionString (memoryAt memory))
  loadCorrectionString _ memory p := some (p.loadCorrectionString (memoryAt memory))
  decodePacket p frame packet := p.decodePacket env packet frame
  getCorrectionFile p := p.getCorrectionFile

def udp72Class : ParserClass Pt where
  State := Udp72Parser
  construct := Udp72Parser.construct
  loadCorrectionFile := loadFile Udp72Parser.loadCorrectionString
  loadCorrectionString := Udp72Parser.loadCorrectionString
  decodePacket p frame packet := p.decodePacket env packet frame
  getCorrectionFile p := p.getCorrectionFile

def parserClass : ParserType → ParserClass Pt
  | .udpP40 => generalClass Pt fun p frame packet => UdpP40Parser.decodePacket env packet p frame
  | .udpP64 => generalClass Pt fun p frame packet => UdpP64Parser.decodePacket env packet p frame
  | .udp14 => inheritingClass Pt Udp14Parser.construct Udp14Parser.toGeneralParser
      (fun p g => { p with toGeneralParser := g }) fun p frame packet => p.decodePacket env packet frame
  | .udp24 => etClass Pt id (fun f p => some (Udp24Parser.loadCorrectionFile f p))
      (fun _ memory p => some (Udp24Parser.loadCorrectionString (memoryAt memory) p))
      fun p frame packet => Udp24Parser.decodePacket env packet p frame
  | .udp25 => etClass Pt ETCorrections.construct (loadFile Udp25Parser.loadCorrectionString)
      Udp25Parser.loadCorrectionString fun p frame packet => Udp25Parser.decodePacket env packet p frame
  | .udp26 => etClass Pt ETCorrections.construct (loadFile Udp26Parser.loadCorrectionString)
      Udp26Parser.loadCorrectionString fun p frame packet => Udp26Parser.decodePacket env packet p frame
  | .udp31 => generalClass Pt fun p frame packet => Udp31Parser.decodePacket env packet p frame
  | .udp32 => inheritingClass Pt Udp32Parser.construct Udp32Parser.toGeneralParser
      (fun p g => { p with toGeneralParser := g }) fun p frame packet => Udp32Parser.decodePacket env packet p frame
  | .udp43 => udp43Class env Pt
  | .udp47 => udp47Class env Pt
  | .udp61 => generalClass Pt fun p frame packet => Udp61Parser.decodePacket env packet p frame
  | .udp72 => udp72Class env Pt

end Classes

end HesaiSdk.Parsing
