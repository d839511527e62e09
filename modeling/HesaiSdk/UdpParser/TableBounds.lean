import HesaiSdk.UdpParser.TableAccess
import HesaiSdk.UdpParser.Udp31Parser
import HesaiSdk.UdpParser.Udp32Parser
import HesaiSdk.UdpParser.UdpP40Parser
import HesaiSdk.UdpParser.UdpP64Parser

/-! The tables of a loaded correction against the packets that are accepted with it. -/

namespace HesaiSdk.Parsing

open Library Library.BlockWalk Lidar UdpProtocol

/-- A parser that reads the tables in one of the forms, at the azimuths of the blocks. -/
structure TableParser (env : Environment) (σ Pt Fault : Type) [Point Pt] extends Parser σ Pt Fault where
  calibration : σ → Calibration
  form : ComputeForm Pt
  spotInTurn : form.SpotInTurn
  computes : ∀ p frame packetIndex,
    computeXYZI p frame packetIndex = form.computeXYZI env (calibration p) frame packetIndex
  keeps : ∀ p frame packet, calibration (decodePacket p frame packet).val.parser = calibration p
  blockAzimuths : ∀ p frame packet, (decodePacket p frame packet).val.ret = 0 →
    (calibration p).getFiretimeFile = false →
      BlockAzimuths (decodePacket p frame packet).val.frame frame.packetNum

section Parsers

variable {env : Environment} {packet : UdpPacket} {Pt : Type} {frame : LidarDecodedFrame Pt}

lemma Udp14Parser.decodePacket_blockAzimuths {p : Udp14Parser} (hret : (p.decodePacket env packet frame).val.ret = 0)
    (hfire : p.getFiretimeFile = false) :
    BlockAzimuths (p.decodePacket env packet frame).val.frame frame.packetNum := by
  rw [decodePacket_val, if_pos (decodePacket_ret.mp hret)]
  simp only [decodeBody, val_bind, val_pure, BlockReader.walk_val]
  refine blockAzimuths_of_filled rfl rfl fun b j old => ?_
  simp only [BlockReader.unitAt, bodyReader, val_bind, val_pure, blockAzimuth, hfire, Bool.false_eq_true, if_false]
  exact ⟨_, rfl⟩

lemma Udp61Parser.decodePacket_blockAzimuths {p : GeneralParser}
    (hret : (decodePacket env packet p frame).val.ret = 0)
    (hfire : p.getFiretimeFile = false) :
    BlockAzimuths (decodePacket env packet p frame).val.frame frame.packetNum := by
  rw [decodePacket_val, if_pos (decodePacket_ret.mp hret)]
  simp only [decodeBody, val_bind, val_pure, BlockReader.walk_val]
  refine blockAzimuths_of_filled rfl rfl fun b j old => ?_
  simp only [BlockReader.unitAt, bodyReader, val_bind, val_pure]
  simp [hfire]

end Parsers

section Instances

lemma noSpot_spotInTurn {Pt : Type} {raw : ℤ → ℤ} {distanceUnit : LidarDecodedFrame Pt → ℚ} {confidence : Bool} :
    (ComputeForm.mk raw (fun _ _ => 0) distanceUnit confidence).SpotInTurn :=
  fun _ _ => ⟨le_rfl, (by decide : (0 : ℤ) < circle)⟩

variable (env : Environment) (Pt Fault : Type) [Point Pt]

def udp14Table : TableParser env Udp14Parser Pt Fault where
  toParser := udp14 env Pt Fault
  calibration p := p.toCalibration
  form := .withConfidence Pt fun _ _ => 0
  spotInTurn := noSpot_spotInTurn
  computes p frame packetIndex := by
    rw [ComputeForm.withConfidence_computeXYZI]
    rfl
  keeps _ _ _ := Udp14Parser.decodePacket_calibration
  blockAzimuths _ _ _ := Udp14Parser.decodePacket_blockAzimuths

def udp31Table : TableParser env GeneralParser Pt Fault where
  toParser := udp31 env Pt Fault
  calibration p := p.toCalibration
  form := Udp31Parser.computeForm Pt
  spotInTurn := noSpot_spotInTurn
  computes _ _ _ := rfl
  keeps _ _ _ := Udp31Parser.decodePacket_calibration
  blockAzimuths _ _ _ := Udp31Parser.decodePacket_blockAzimuths

def udp32Table : TableParser env Udp32Parser Pt Fault where
  toParser := udp32 env Pt Fault
  calibration p := p.toCalibration
  form := Udp32Parser.computeForm Pt
  spotInTurn := noSpot_spotInTurn
  computes _ _ _ := rfl
  keeps _ _ _ := Udp32Parser.decodePacket_calibration
  blockAzimuths _ _ _ := Udp32Parser.decodePacket_blockAzimuths

def udpP40Table : TableParser env GeneralParser Pt Fault where
  toParser := udpP40 env Pt Fault
  calibration p := p.toCalibration
  form := UdpP40Parser.computeForm Pt
  spotInTurn := noSpot_spotInTurn
  computes _ _ _ := rfl
  keeps _ _ _ := UdpP40Parser.decodePacket_calibration
  blockAzimuths _ _ _ := UdpP40Parser.decodePacket_blockAzimuths

def udpP64Table : TableParser env GeneralParser Pt Fault where
  toParser := udpP64 env Pt Fault
  calibration p := p.toCalibration
  form := UdpP64Parser.computeForm Pt
  spotInTurn := noSpot_spotInTurn
  computes _ _ _ := rfl
  keeps _ _ _ := UdpP64Parser.decodePacket_calibration
  blockAzimuths _ _ _ := UdpP64Parser.decodePacket_blockAzimuths

end Instances

namespace TableParser

variable {env : Environment} {σ Pt Fault : Type} [Point Pt]

def oneRow : List Char := ['i', 'd', '\n', '1', ',', '0', ',', '0', '\n']

end TableParser

end HesaiSdk.Parsing
