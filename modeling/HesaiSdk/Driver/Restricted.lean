import HesaiSdk.Driver.Scheduling
import HesaiSdk.UdpParser.Restricted

/-! A run of the threads is one with a parser that carries what its calls keep. -/

namespace HesaiSdk.Driver

open Library Library.Transition Lidar UdpProtocol Parsing

variable {σ Pt Fault : Type} {n : ℕ} {I : σ → Prop} {env : Environment} {P : Parser σ Pt Fault} {keeps : P.Keeps I}
  {made : { p : σ // I p }}

namespace RunState

def forget (s : RunState { p : σ // I p } Pt Fault) : RunState σ Pt Fault where
  udpParser := s.udpParser.forget
  frame := s.frame
  udpPacketFrame := s.udpPacketFrame
  packetIndex := s.packetIndex
  faultMessageInfo := s.faultMessageInfo

variable {s : RunState { p : σ // I p } Pt Fault} {packet : UdpPacket}

lemma decode_forget (hs : s.udpParser.parser.isSome) :
    let d := (s.decode env (P.restrict keeps made) packet).val
    (s.forget.decode env P packet).val = (d.1, d.2.forget) ∧ d.2.udpParser.parser.isSome := by
  obtain ⟨hd, hsome⟩ := @UdpParser.decodePacket_forget σ Pt Fault I env P keeps made s.udpParser s.frame packet hs
  have hframe : s.forget.frame = s.frame := rfl
  have hparser : s.forget.udpParser = s.udpParser.forget := rfl
  simp only [decode, val_bind, val_pure, val_relabel, hframe, hparser, hd]
  exact ⟨rfl, hsome⟩

end RunState

namespace Pipeline

def forget (s : Pipeline { p : σ // I p } Pt Fault n) : Pipeline σ Pt Fault n where
  main := s.main.forget
  pc := s.pc
  decodedPacketsBuffer := s.decodedPacketsBuffer
  computePacketNum := s.computePacketNum
  parser := s.parser
  nUDPCount := s.nUDPCount
  handles := s.handles
  sequential := s.sequential
  writes := s.writes
  dropped := s.dropped
  published := s.published

def HasParser (s : Pipeline { p : σ // I p } Pt Fault n) : Prop := s.main.udpParser.parser.isSome

variable {s t : Pipeline { p : σ // I p } Pt Fault n} {device : DeviceFilter}

lemma decodePacket_forget (hs : s.HasParser) (packet : UdpPacket) :
    s.forget.decodePacket env P packet = (s.decodePacket env (P.restrict keeps made) packet).forget ∧
      (s.decodePacket env (P.restrict keeps made) packet).HasParser := by
  obtain ⟨hd, hsome⟩ := @RunState.decode_forget σ Pt Fault I env P keeps made s.main packet hs
  have hmain : s.forget.main = s.main.forget := rfl
  simp only [decodePacket, hmain, hd]
  have hframe : (s.main.decode env (P.restrict keeps made) packet).val.2.forget.frame =
      (s.main.decode env (P.restrict keeps made) packet).val.2.frame := rfl
  have hindex : (s.main.decode env (P.restrict keeps made) packet).val.2.forget.packetIndex =
      (s.main.decode env (P.restrict keeps made) packet).val.2.packetIndex := rfl
  simp only [hframe, hindex]
  split_ifs
  all_goals exact ⟨rfl, hsome⟩

/-- Both calls stop, or both reach the same state, with a parser. -/
def Alike (x : Option (Pipeline σ Pt Fault n)) (y : Option (Pipeline { p : σ // I p } Pt Fault n)) : Prop :=
  x = y.map forget ∧ ∀ t ∈ y, t.HasParser

end Pipeline

end HesaiSdk.Driver
