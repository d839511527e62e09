import HesaiSdk.UdpParser.Gated

/-! The parser behind the pointer of `UdpParser`: an object of whichever class `CreatGeneralParser` has chosen. -/

namespace HesaiSdk.Parsing

open Library Lidar UdpProtocol

section Virtual

variable {State : ParserType → Type} {Pt Fault : Type}

/-- The virtual functions go to the class of the object. -/
def Parser.dispatch (P : ∀ type, Parser (State type) Pt Fault) : Parser (Σ type, State type) Pt Fault where
  new type := ⟨type, (P type).new type⟩
  decodePacket p frame packet := do
    let d ← (P p.1).decodePacket p.2 frame packet
    pure ⟨d.ret, ⟨p.1, d.parser⟩, d.frame⟩
  computeXYZI p frame packetIndex := (P p.1).computeXYZI p.2 frame packetIndex
  parserFaultMessage p packet info := (P p.1).parserFaultMessage p.2 packet info

lemma allLog_dispatch {P : ∀ type, Parser (State type) Pt Fault} {Q : DecodeEvent → Prop} {p : Σ type, State type}
    {frame : LidarDecodedFrame Pt} {packet : UdpPacket} (h : AllLog Q ((P p.1).decodePacket p.2 frame packet)) :
    AllLog Q ((Parser.dispatch P).decodePacket p frame packet) :=
  allLog_bind.mpr ⟨h, allLog_pure _⟩

def FramingParser.dispatch (F : ∀ type, FramingParser (State type) Pt Fault) :
    FramingParser (Σ type, State type) Pt Fault where
  toParser := Parser.dispatch fun type => (F type).toParser
  Received packet := ∀ type, (F type).Received packet
  counts p frame packet hr := (F p.1).counts p.2 frame packet (hr p.1)
  acceptsAgain p frame packet hr := (F p.1).acceptsAgain p.2 frame packet (hr p.1)
  stampIndex p frame packet := allLog_dispatch ((F p.1).stampIndex p.2 frame packet)
  computeIndex p frame packetIndex := (F p.1).computeIndex p.2 frame packetIndex

end Virtual

/-- The objects of a class. -/
def ParserState : ParserType → Type
  | .udp14 => Udp14Parser
  | .udp24 => EtParser ETCorrectionsV4
  | .udp25 => EtParser ETCorrections
  | .udp26 => EtParser ETCorrections
  | .udp32 => Udp32Parser
  | .udp43 => Udp43Parser
  | .udp47 => Udp47Parser
  | .udp72 => Udp72Parser
  | _ => GeneralParser

section Classes

variable (env : Environment) (Pt : Type) [Point Pt] {Fault : Type} (faultMessage43 faultMessage47 : UdpPacket → Fault → Fault)

/-- `parser_` of `UdpParser`. -/
def parserFraming : ∀ type, FramingParser (ParserState type) Pt Fault
  | .udpP40 => (udpP40Gated env Pt Fault).framing
  | .udpP64 => (udpP64Gated env Pt Fault).framing
  | .udp14 => udp14Framing env Pt Fault
  | .udp24 => (EtParser.gated _ (udp24_guards env Pt Fault)).framing
  | .udp25 => (EtParser.gated _ (udp25_guards env Pt Fault)).framing
  | .udp26 => (EtParser.gated _ (udp26_guards env Pt Fault)).framing
  | .udp31 => (udp31Gated env Pt Fault).framing
  | .udp32 => (udp32Gated env Pt Fault).framing
  | .udp43 => udp43Framing env Pt Fault faultMessage43
  | .udp47 => (udp47Gated env Pt Fault faultMessage47).framing
  | .udp61 => udp61Framing env Pt Fault
  | .udp72 => (udp72Gated env Pt Fault).framing

def anyParser : FramingParser (Σ type, ParserState type) Pt Fault :=
  .dispatch (parserFraming env Pt faultMessage43 faultMessage47)

variable {env Pt faultMessage43 faultMessage47}

/-- Only the parser of the AT128 asks for more than a packet: that a marker of the receive thread is one. -/
lemma anyParser_received {packet : UdpPacket} (h : packet.isTimeout = true → ¬Delimited env packet) :
    (anyParser env Pt faultMessage43 faultMessage47).Received packet := by
  intro type
  cases type with
  | udp43 => exact h
  | _ => trivial

lemma anyParser_fault {p : Σ type, ParserState type} {packet : UdpPacket} {info : Fault} :
    (anyParser env Pt faultMessage43 faultMessage47).parserFaultMessage p packet info =
      match p.1 with
      | .udp43 => faultMessage43 packet info
      | .udp47 => faultMessage47 packet info
      | _ => info := by
  obtain ⟨type, p⟩ := p
  cases type <;> rfl

end Classes

end HesaiSdk.Parsing
