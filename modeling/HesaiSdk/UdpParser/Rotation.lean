import HesaiSdk.UdpParser.FrameSplit
import HesaiSdk.UdpParser.Udp14Parser
import HesaiSdk.UdpParser.Udp61Parser

/-! The copies of `IsNeedFrameSplit`, and the parsers that split frames with them. -/

namespace HesaiSdk.Parsing

open Library Lidar UdpProtocol GeneralParser

def UdpP64Parser.isNeedFrameSplit (azimuth : UInt16) (p : GeneralParser) : GeneralParser × Bool :=
  p.isNeedFrameSplit azimuth

def Udp31Parser.isNeedFrameSplit (azimuth : UInt16) (p : GeneralParser) : GeneralParser × Bool :=
  p.isNeedFrameSplitUncast azimuth

def Udp32Parser.isNeedFrameSplit (azimuth : UInt16) (p : GeneralParser) : GeneralParser × Bool :=
  p.isNeedFrameSplitUncast azimuth

def UdpP40Parser.isNeedFrameSplit (azimuth : UInt16) (p : GeneralParser) : GeneralParser × Bool :=
  p.isNeedFrameSplitUncast azimuth

section Copies

/-- The copies leave the same state, and give the same answer exactly if the azimuths do not part them. -/
theorem isNeedFrameSplit_copies (p : GeneralParser) (h0 : 0 ≤ p.frameStartAzimuth) (h360 : p.frameStartAzimuth < 360)
    (azimuth : UInt16) :
    let copies := [Udp61Parser.isNeedFrameSplit, UdpP64Parser.isNeedFrameSplit, Udp31Parser.isNeedFrameSplit,
      Udp32Parser.isNeedFrameSplit, UdpP40Parser.isNeedFrameSplit]
    (∀ copy ∈ copies, (copy azimuth p).1 = (Udp14Parser.isNeedFrameSplit azimuth p).1) ∧
    ((∀ copy ∈ copies, copy azimuth p = Udp14Parser.isNeedFrameSplit azimuth p) ↔ ¬p.Parted azimuth.toNat) := by
  intro copies
  have hn : p.normalizeFrameStart = p := by
    rw [normalizeFrameStart, if_neg (not_or.mpr ⟨not_lt.mpr h0, not_le.mpr h360⟩)]
  have hiff := isNeedFrameSplitUncast_eq_iff azimuth p
  have hfst : (p.isNeedFrameSplitUncast azimuth).1 = (p.isNeedFrameSplit azimuth).1 := isCopy_uncast.fst_eq
  rw [hn] at hiff
  simp only [copies, List.forall_mem_cons, List.not_mem_nil, IsEmpty.forall_iff, implies_true, and_true]
  refine ⟨⟨rfl, rfl, hfst, hfst, hfst⟩, ?_⟩
  rw [← hiff]
  exact ⟨fun h => h.2.2.1, fun h => ⟨rfl, rfl, h, h, h⟩⟩

/-- Backwards onto the hundredth below a start azimuth of 300.005 degrees, over the end of the circle. -/
theorem isNeedFrameSplit_parted :
    let p := { (default : GeneralParser) with
      frameStartAzimuth := 60001 / 200, lastLastAzimuth := 100, lastAzimuth := 50 }
    (Udp61Parser.isNeedFrameSplit 30000 p).2 = false ∧ (UdpP40Parser.isNeedFrameSplit 30000 p).2 = true := by
  decide +kernel

/-- The same step parts them there and not one hundredth further. -/
theorem isNeedFrameSplit_copies_jump :
    let p := { (default : GeneralParser) with
      frameStartAzimuth := 38401 / 128, lastLastAzimuth := 100, lastAzimuth := 50 }
    let copies := [Udp61Parser.isNeedFrameSplit, UdpP64Parser.isNeedFrameSplit, Udp31Parser.isNeedFrameSplit,
      Udp32Parser.isNeedFrameSplit, UdpP40Parser.isNeedFrameSplit]
    (∀ copy ∈ copies, (copy 30000 p).1 = (Udp14Parser.isNeedFrameSplit 30000 p).1) ∧
    (¬∀ copy ∈ copies, copy 30000 p = Udp14Parser.isNeedFrameSplit 30000 p) ∧
    ∀ copy ∈ copies, copy 30001 p = Udp14Parser.isNeedFrameSplit 30001 p := by
  intro p copies
  have h0 : 0 ≤ p.frameStartAzimuth := by decide +kernel
  have h360 : p.frameStartAzimuth < 360 := by decide +kernel
  obtain ⟨hstate, hsame⟩ := isNeedFrameSplit_copies p h0 h360 30000
  exact ⟨hstate, fun h => hsame.mp h (by decide +kernel),
    (isNeedFrameSplit_copies p h0 h360 30001).2.mpr (by decide +kernel)⟩

end Copies

/-- A parser that splits frames by the azimuth of the last block of each accepted packet. -/
structure MechanicalParser (σ Pt Fault : Type) extends Parser σ Pt Fault where
  general : σ → GeneralParser
  azimuth : UdpPacket → UInt16
  isNeedFrameSplit : UInt16 → GeneralParser → GeneralParser × Bool
  copy : IsCopy isNeedFrameSplit
  turns : ∀ p frame packet,
    let d := (decodePacket p frame packet).val
    d.ret = 0 → d.frame.scanComplete = ((general p).turnTo isNeedFrameSplit (azimuth packet)).2 ∧
      (general d.parser).splitState = ((general p).turnTo isNeedFrameSplit (azimuth packet)).1.splitState

end HesaiSdk.Parsing
