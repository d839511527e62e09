import HesaiSdk.UdpParser.Storing

/-! A parser that carries what its calls keep, such as the files it was calibrated with. -/

namespace HesaiSdk.Parsing

open Library Lidar UdpProtocol

variable {σ Pt Fault : Type} {I : σ → Prop}

def Decoded.carry (d : Decoded σ Pt) (h : I d.parser) : Decoded { p : σ // I p } Pt := ⟨d.ret, ⟨d.parser, h⟩, d.frame⟩

/-- `DecodePacket` keeps `I`. -/
def Parser.Keeps (P : Parser σ Pt Fault) (I : σ → Prop) : Prop :=
  ∀ p frame packet, I p → I (P.decodePacket p frame packet).val.parser

/-- The calls of `P` on the parsers with `I`. -/
def Parser.restrict (P : Parser σ Pt Fault) (keeps : P.Keeps I) (made : { p : σ // I p }) :
    Parser { p : σ // I p } Pt Fault where
  new _ := made
  decodePacket p frame packet :=
    let d := P.decodePacket p.1 frame packet
    ⟨d.val.carry (keeps p.1 frame packet p.2), d.log⟩
  computeXYZI p := P.computeXYZI p.1
  parserFaultMessage p := P.parserFaultMessage p.1

def FramingParser.restrict (F : FramingParser σ Pt Fault) (keeps : F.Keeps I) (made : { p : σ // I p }) :
    FramingParser { p : σ // I p } Pt Fault where
  toParser := F.toParser.restrict keeps made
  Received := F.Received
  counts p := F.counts p.1
  acceptsAgain p := F.acceptsAgain p.1
  stampIndex p := F.stampIndex p.1
  computeIndex p := F.computeIndex p.1

def StoringParser.restrict (F : StoringParser σ Pt Fault) (keeps : F.Keeps I) (made : { p : σ // I p }) :
    StoringParser { p : σ // I p } Pt Fault where
  toFramingParser := F.toFramingParser.restrict keeps made
  shape := F.shape
  rejected p := F.rejected p.1
  accepted p := F.accepted p.1
  pointIndex p := F.pointIndex p.1
  computesPoints p := F.computesPoints p.1

namespace UdpParser

def carry (u : UdpParser σ) (parser : { p : σ // I p }) : UdpParser { p : σ // I p } where
  parser := some parser
  fisrtPacket := u.fisrtPacket
  lastHostTimestamp := u.lastHostTimestamp
  lastSensorTimestamp := u.lastSensorTimestamp
  packetCount := u.packetCount
  pcapTimeSynchronization := u.pcapTimeSynchronization
  sourceType := u.sourceType

def forget (u : UdpParser { p : σ // I p }) : UdpParser σ where
  parser := u.parser.map Subtype.val
  fisrtPacket := u.fisrtPacket
  lastHostTimestamp := u.lastHostTimestamp
  lastSensorTimestamp := u.lastSensorTimestamp
  packetCount := u.packetCount
  pcapTimeSynchronization := u.pcapTimeSynchronization
  sourceType := u.sourceType

variable {env : Environment} {P : Parser σ Pt Fault} {keeps : P.Keeps I} {made : { p : σ // I p }}
  {u : UdpParser { p : σ // I p }} {frame : LidarDecodedFrame Pt} {packet : UdpPacket}

lemma synchronize_forget : (u.forget.synchronize frame).val = (u.synchronize frame).val.forget := by
  simp only [synchronize, val_ite, val_bind, val_pure, apply_ite forget]
  rfl

lemma synchronize_keeps : (u.synchronize frame).val.parser = u.parser := by
  simp only [synchronize, val_ite, val_bind, val_pure, apply_ite parser, ite_self]

/-- With a parser, the calls do on what is carried what they do without. -/
lemma decodePacket_forget (hu : u.parser.isSome) :
    let d := (u.decodePacket env (P.restrict keeps made) frame packet).val
    (u.forget.decodePacket env P frame packet).val = ⟨d.ret, d.parser.forget, d.frame⟩ ∧ d.parser.parser.isSome := by
  obtain ⟨p, hp⟩ := Option.isSome_iff_exists.mp hu
  have hforget : u.forget.parser = some p.1 := by rw [forget, hp, Option.map_some]
  have hsource : u.forget.sourceType = u.sourceType := rfl
  have hsync : u.forget.pcapTimeSynchronization = u.pcapTimeSynchronization := rfl
  rw [decodePacket, decodePacket]
  split_ifs
  · exact ⟨rfl, hu⟩
  · simp only [hp, hforget, hsource, hsync, val_bind, val_pure, val_ite, Parser.restrict, Decoded.carry]
    let d := (P.decodePacket p.1 frame packet).val
    let next : UdpParser { p : σ // I p } := { u with parser := some ⟨d.parser, keeps p.1 frame packet p.2⟩ }
    split_ifs
    · have hnext : (next.forget.synchronize d.frame).val = (next.synchronize d.frame).val.forget := synchronize_forget
      have hparser : (next.synchronize d.frame).val.parser = next.parser := synchronize_keeps
      exact ⟨congrArg (Decoded.mk d.ret · d.frame) hnext, congrArg Option.isSome hparser⟩
    · exact ⟨rfl, rfl⟩

end UdpParser

end HesaiSdk.Parsing
