import HesaiSdk.UdpParser.Udp43Correction
import Mathlib.Data.List.Find

/-! The mirror field of the AT128 on the graphics card. -/

namespace HesaiSdk.Parsing

open Library.CyclicSearch

structure Udp43ParserGpu where
  correctionsLoaded : Bool
  corrections : PandarATCorrections
  mirrorAziBegins : ℕ → UInt32
  mirrorAziEnds : ℕ → UInt32
deriving Inhabited

namespace Udp43ParserGpu

variable {data : CorrectionData} {p : Udp43Parser} {g : Udp43ParserGpu} {azimuth : ℤ} {i : ℕ}

def loadCorrectionString (data : CorrectionData) (g : Udp43ParserGpu) : Udp43ParserGpu × ℤ :=
  if data.isDelimited ∧ data.version = 5 then
    let header := PandarATCorrectionsHeader.read data
    if header.refused then
      ({ g with corrections := { g.corrections with frameNumber := header.frameNumber } }, -1)
    else
      let corrections := g.corrections.copyFile data header
      (⟨true, corrections, corrections.startFrame, corrections.endFrame⟩, 0)
  else (g, -1)

def inField (g : Udp43ParserGpu) (azimuth : ℤ) (field : ℕ) : Bool :=
  let begin : ℤ := (g.mirrorAziBegins field).toNat
  let stop : ℤ := (g.mirrorAziEnds field).toNat
  Udp43Parser.u32 (Udp43Parser.u32 (azimuth + circle - begin) % circle +
      Udp43Parser.u32 (stop + circle - azimuth) % circle) ==
    Udp43Parser.u32 (stop + circle - begin) % circle

/-- The loop of `compute_xyzs_v4_3_impl`, which knows three fields. -/
def searchField (g : Udp43ParserGpu) (azimuth : ℤ) : Option ℕ := search (g.inField azimuth) 3 3 0

lemma loadCorrectionString_accepted (h : (p.loadCorrectionString data).2 = 0) :
    (p.loadCorrectionString data).1.corrections =
        (p.corrections.copyFile data (PandarATCorrectionsHeader.read data)).scaleChannels
          (PandarATCorrectionsHeader.read data) ∧
      g.loadCorrectionString data =
        (⟨true, g.corrections.copyFile data (PandarATCorrectionsHeader.read data),
          (g.corrections.copyFile data (PandarATCorrectionsHeader.read data)).startFrame,
          (g.corrections.copyFile data (PandarATCorrectionsHeader.read data)).endFrame⟩, 0) := by
  obtain ⟨-, heq⟩ | ⟨-, -, heq⟩ | ⟨hfile, hread, heq⟩ := p.loadCorrectionString_cases data
  · rw [heq] at h
    contradiction
  · rw [heq] at h
    contradiction
  · refine ⟨by rw [heq], ?_⟩
    rw [loadCorrectionString, if_pos hfile]
    exact if_neg (Bool.eq_false_iff.mp hread)

lemma loadCorrectionString_ret :
    (g.loadCorrectionString data).2 = 0 ↔ (p.loadCorrectionString data).2 = 0 := by
  refine ⟨fun h => ?_, fun h => by rw [(loadCorrectionString_accepted (g := g) h).2]⟩
  obtain ⟨hfile, -⟩ | ⟨hfile, hread, -⟩ | ⟨-, -, heq⟩ := p.loadCorrectionString_cases data
  · rw [loadCorrectionString, if_neg hfile] at h
    contradiction
  · rw [loadCorrectionString, if_pos hfile] at h
    simp only [if_pos hread] at h
    contradiction
  · rw [heq]

lemma inField_loaded (h : (p.loadCorrectionString data).2 = 0)
    (hi : i < (p.loadCorrectionString data).1.corrections.frameNumber) :
    (g.loadCorrectionString data).1.inField azimuth i = (p.loadCorrectionString data).1.inField azimuth i := by
  obtain ⟨hcpu, hgpu⟩ := loadCorrectionString_accepted (g := g) h
  rw [hcpu] at hi
  rw [inField, Udp43Parser.inField, hgpu, hcpu]
  simp only [PandarATCorrections.scaleChannels, PandarATCorrections.copyFile] at hi ⊢
  rw [setFirst_of_lt hi, setFirst_of_lt hi, setFirst_of_lt hi, setFirst_of_lt hi]

/-- The two searches agree exactly if one of the fields that both look at contains the azimuth, or none of those
does that only one of them looks at. -/
theorem searchField_eq_iff (data : CorrectionData) (p : Udp43Parser) (g : Udp43ParserGpu) (azimuth : ℤ)
    (hload : (p.loadCorrectionString data).2 = 0) :
    let cpu := (p.loadCorrectionString data).1
    let gpu := (g.loadCorrectionString data).1
    cpu.searchField azimuth cpu.corrections.frameNumber 0 = gpu.searchField azimuth ↔
      (∃ i < min cpu.corrections.frameNumber 3, cpu.inField azimuth i = true) ∨
        (∀ i, cpu.corrections.frameNumber ≤ i → i < 3 → gpu.inField azimuth i = false) ∧
          ∀ i, 3 ≤ i → i < cpu.corrections.frameNumber → cpu.inField azimuth i = false := by
  intro cpu gpu
  have hsame : ∀ i < cpu.corrections.frameNumber, gpu.inField azimuth i = cpu.inField azimuth i :=
    fun i hi => inField_loaded hload hi
  rw [Udp43Parser.searchField_eq_find, searchField, search_turn]
  rcases Nat.le_total cpu.corrections.frameNumber 3 with hle | hle
  · have hfind : (List.range cpu.corrections.frameNumber).find? (cpu.inField azimuth) =
        (List.range cpu.corrections.frameNumber).find? (gpu.inField azimuth) :=
      List.find?_congr fun i hi => (hsame i (List.mem_range.mp hi)).symm
    rw [hfind, find_range_le hle, Nat.min_eq_left hle]
    refine or_congr (exists_congr fun i => and_congr_right fun hi => by rw [hsame i hi]) ?_
    exact ⟨fun h => ⟨h, fun i h3 hi => absurd hi (by omega)⟩, fun h => h.1⟩
  · have hfind : (List.range 3).find? (gpu.inField azimuth) = (List.range 3).find? (cpu.inField azimuth) :=
      List.find?_congr fun i hi => hsame i ((List.mem_range.mp hi).trans_le hle)
    rw [hfind, eq_comm, find_range_le hle, Nat.min_eq_right hle]
    refine or_congr Iff.rfl ?_
    exact ⟨fun h => ⟨fun i hi h3 => absurd h3 (by omega), h⟩, fun h => h.2⟩

def fieldFile (frames : UInt8) : CorrectionData := fun o =>
  ([0xEE, 0xFF, 0, 5, 0, 0, frames, 0, 0, 0, 0, 0, 0, 0, 0, 1] ++
    ([[0, 0], [100, 0], [200, 0], [0, 2]].take frames.toNat).flatMap (· ++ [0, 0]) ++
    ([[50, 0], [150, 0], [250, 0], [0, 3]].take frames.toNat).flatMap (· ++ [0, 0])).getD o 0

theorem searchField_eq_three :
    ((default : Udp43Parser).loadCorrectionString (fieldFile 3)).1.searchField 120 3 0 =
      ((default : Udp43ParserGpu).loadCorrectionString (fieldFile 3)).1.searchField 120 :=
  (searchField_eq_iff (fieldFile 3) default default 120 (by decide +kernel)).mpr
    (Or.inl ⟨1, by decide +kernel, by decide +kernel⟩)

/-- The fourth of four fields. -/
theorem searchField_fourth : ¬∀ (data : CorrectionData) (p : Udp43Parser) (g : Udp43ParserGpu) (azimuth : ℤ),
    (p.loadCorrectionString data).2 = 0 → (g.loadCorrectionString data).2 = 0 →
      (p.loadCorrectionString data).1.searchField azimuth
          (p.loadCorrectionString data).1.corrections.frameNumber 0 =
        (g.loadCorrectionString data).1.searchField azimuth := by
  intro h
  have heq := h (fieldFile 4) default default 600 (by decide +kernel) (by decide +kernel)
  have hcpu : ((default : Udp43Parser).loadCorrectionString (fieldFile 4)).1.searchField 600
      ((default : Udp43Parser).loadCorrectionString (fieldFile 4)).1.corrections.frameNumber 0 = some 3 := by
    decide +kernel
  have hgpu : ((default : Udp43ParserGpu).loadCorrectionString (fieldFile 4)).1.searchField 600 = none := by
    decide +kernel
  rw [hcpu, hgpu] at heq
  contradiction

end Udp43ParserGpu

end HesaiSdk.Parsing
