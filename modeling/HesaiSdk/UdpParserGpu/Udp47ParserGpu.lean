import HesaiSdk.Library.Interpolation
import HesaiSdk.UdpParser.Udp47Parser
import Mathlib.Data.Rat.Floor
import Mathlib.Tactic.Linarith
import Mathlib.Tactic.NormNum

/-! The elevation adjustment of the ATX on the graphics card. -/

namespace HesaiSdk.Parsing

open Library Library.Interpolation Lidar UdpProtocol

namespace ATXCorrections

variable {c : ATXCorrections} {azimuth : ℤ}

def degrees (azimuth : ℤ) : ℚ := azimuth / kAllFineResolutionFloat

def adjustWeights (azimuthAngle : ℚ) : List (ℤ × ℚ) :=
  if azimuthAngle < kBegElevationAdjust ∨ getEndElevationAdjust < azimuthAngle then []
  else
    let index := (truncate ((azimuthAngle - kBegElevationAdjust) / kStepElevationAdjust)).toNat
    if index = kLenElevationAdjust - 1 then [((index : ℤ), 1)]
    else between index ((azimuthAngle - kBegElevationAdjust - index * kStepElevationAdjust) / kStepElevationAdjust)

lemma elevationAdjust_eq_weigh (h : 0 ≤ azimuth ∧ azimuth < circle) : c.elevationAdjust azimuth =
    weigh (fun i => c.elevationAdjusts i.toNat) (adjustWeights (degrees azimuth)) := by
  have hturn : (circle + azimuth).tmod circle = azimuth := by
    rw [Int.tmod_eq_emod_of_nonneg (by omega), Int.add_emod_left, Int.emod_eq_of_lt h.1 h.2]
  simp only [elevationAdjust, hturn, degrees]
  generalize (azimuth : ℚ) / kAllFineResolutionFloat = azimuthAngle
  simp only [adjustWeights]
  split_ifs
  · rfl
  · rw [weigh_single, Int.toNat_natCast]
  · rw [weigh_between, Int.toNat_natCast, ← Nat.cast_succ, Int.toNat_natCast]

lemma end_eq : getEndElevationAdjust = 158 := by
  norm_num [getEndElevationAdjust, kBegElevationAdjust, kStepElevationAdjust, kLenElevationAdjust]

lemma adjustWeights_outside {q : ℚ} (h : q < 20 ∨ 158 < q) : adjustWeights q = [] := by
  rw [adjustWeights, end_eq, kBegElevationAdjust]
  exact if_pos h

lemma adjustWeights_inside {q : ℚ} (hlow : 20 ≤ q) (hhigh : q ≤ 158) :
    adjustWeights q = if ⌊(q - 20) / 2⌋ = 69 then [(⌊(q - 20) / 2⌋, 1)]
      else between ⌊(q - 20) / 2⌋ ((q - 20 - ⌊(q - 20) / 2⌋ * 2) / 2) := by
  have hnonneg : 0 ≤ (q - 20) / 2 := by linarith
  have hin : ¬(q < 20 ∨ 158 < q) := by
    rintro (hless | hmore)
    · exact not_lt.mpr hlow hless
    · exact not_lt.mpr hhigh hmore
  obtain ⟨index, hindex⟩ := Int.eq_ofNat_of_zero_le (Int.floor_nonneg.mpr hnonneg)
  have hlast : index = kLenElevationAdjust - 1 ↔ (index : ℤ) = 69 := by
    rw [kLenElevationAdjust]
    omega
  simp only [adjustWeights, end_eq, kBegElevationAdjust, kStepElevationAdjust, if_neg hin,
    truncate_of_nonneg hnonneg, hindex, Int.toNat_natCast, hlast, Int.cast_natCast]

end ATXCorrections

/-- `deles` is the memory of the card around the adjustment table that was copied to it. -/
structure Udp47ParserGpu where
  correctionsLoaded : Bool
  corrections : ATXCorrections
  channelElevations : ℕ → ℚ
  deles : ℤ → ℚ
deriving Inhabited

namespace Udp47ParserGpu

/-- `memory` is what the card holds around the tables that are allocated for a file. -/
def loadCorrectionString (memory : ℤ → ℚ) (data : CorrectionData) (g : Udp47ParserGpu) : Udp47ParserGpu × ℤ :=
  let header := ATXCorrectionsHeader.read data
  if data.isDelimited ∧ header.known then
    let committed := g.corrections.storeHeader header
    if header.refused then ({ g with corrections := committed }, -1)
    else
      let corrections := committed.copyFile data header
      ({ correctionsLoaded := true
         corrections := corrections
         channelElevations := corrections.elevation
         deles := if header.version = 3
           then fun i => if 0 ≤ i ∧ i < atxLaserNum then corrections.elevationAdjusts i.toNat else memory i
           else g.deles }, 0)
  else (g, -1)

section Kernel

variable (g : Udp47ParserGpu)

/-- The branch of `compute_xyzs_v4_7_impl` for version 3; `azimuth` is in degrees. -/
def elevationAdjust (azimuth : ℚ) : ℚ :=
  let begElevationAdjust : ℚ := 20
  let stepElevationAdjust : ℚ := 2
  let endElevationAdjust : ℚ := 158
  if stepElevationAdjust ≤ azimuth ∧ azimuth ≤ endElevationAdjust then
    let index := truncate ((azimuth - begElevationAdjust) / stepElevationAdjust)
    let leftPercent := (azimuth - begElevationAdjust - index * stepElevationAdjust) / stepElevationAdjust
    g.deles index * (1 - leftPercent) + g.deles (index + 1) * leftPercent
  else 0

def pointElevation (azimuth : ℚ) (channel : ℕ) : ℚ :=
  if g.corrections.version = 3 then g.channelElevations channel + g.elevationAdjust azimuth
  else g.channelElevations channel

end Kernel

def adjustWeights (azimuth : ℚ) : List (ℤ × ℚ) :=
  if 2 ≤ azimuth ∧ azimuth ≤ 158 then
    between (truncate ((azimuth - 20) / 2)) ((azimuth - 20 - truncate ((azimuth - 20) / 2) * 2) / 2)
  else []

variable {g : Udp47ParserGpu} {c : ATXCorrections} {q : ℚ}

lemma elevationAdjust_eq_weigh : g.elevationAdjust q = weigh g.deles (adjustWeights q) := by
  simp only [elevationAdjust, adjustWeights]
  split_ifs
  · rw [weigh_between]
  · rfl

def Copied (c : ATXCorrections) (g : Udp47ParserGpu) : Prop :=
  ∀ i : ℤ, 0 ≤ i → i < ATXCorrections.kLenElevationAdjust → c.elevationAdjusts i.toNat = g.deles i

lemma loadCorrectionString_copied (memory : ℤ → ℚ) (data : CorrectionData) (p : Udp47Parser) (g : Udp47ParserGpu)
    (hversion : data.version = 3) (hload : (p.loadCorrectionString data).2 = 0) :
    Copied (p.loadCorrectionString data).1.corrections (g.loadCorrectionString memory data).1 := by
  obtain ⟨-, heq⟩ | ⟨-, -, heq⟩ | ⟨hfile, hread, heq⟩ := p.loadCorrectionString_cases data
  · rw [heq] at hload
    contradiction
  · rw [heq] at hload
    contradiction
  · intro i h0 hi
    have hversion' : (ATXCorrectionsHeader.read data).version = 3 := hversion
    have hlen : i.toNat < ATXCorrections.kLenElevationAdjust := by omega
    have hbig : i < atxLaserNum := by
      rw [ATXCorrections.kLenElevationAdjust] at hi
      rw [atxLaserNum]
      omega
    have hgpu : (g.loadCorrectionString memory data).1.deles i =
        ((g.corrections.storeHeader (ATXCorrectionsHeader.read data)).copyFile data
          (ATXCorrectionsHeader.read data)).elevationAdjusts i.toNat := by
      rw [loadCorrectionString, if_pos hfile]
      simp only [hread, Bool.false_eq_true, if_false, hversion', if_true, if_pos (And.intro h0 hbig)]
    have htable (c : ATXCorrections) : (c.copyFile data (ATXCorrectionsHeader.read data)).elevationAdjusts i.toNat =
        ATXCorrections.angleAt data (ATXCorrectionsHeader.read data) 3 i.toNat := by
      rw [ATXCorrections.copyFile, hversion', if_neg (by decide), if_neg (by decide)]
      exact setFirst_of_lt hlen
    rw [heq, hgpu, htable, htable]

def SameAdjust (c : ATXCorrections) (g : Udp47ParserGpu) (azimuth : ℤ) : Prop :=
  c.elevationAdjust azimuth = g.elevationAdjust (ATXCorrections.degrees azimuth) ∧
    InTable ATXCorrections.kLenElevationAdjust (ATXCorrections.adjustWeights (ATXCorrections.degrees azimuth)) ∧
    InTable ATXCorrections.kLenElevationAdjust (adjustWeights (ATXCorrections.degrees azimuth))

lemma adjustWeights_outside (h : q < 2 ∨ 158 < q) : adjustWeights q = [] := by
  refine if_neg ?_
  rintro ⟨hlow, hhigh⟩
  rcases h with hless | hmore
  · exact not_lt.mpr hlow hless
  · exact not_lt.mpr hhigh hmore

lemma adjustWeights_inside (hlow : 20 ≤ q) (hhigh : q ≤ 158) :
    adjustWeights q = between ⌊(q - 20) / 2⌋ ((q - 20 - ⌊(q - 20) / 2⌋ * 2) / 2) := by
  rw [adjustWeights, if_pos ⟨by linarith, hhigh⟩, truncate_of_nonneg (by linarith)]

lemma adjustWeights_extended (hlow : 18 < q) (hhigh : q < 20) : adjustWeights q = between 0 ((q - 20) / 2) := by
  have hzero : ⌈(q - 20) / 2⌉ = 0 := Int.ceil_eq_zero_iff.mpr ⟨by linarith, by linarith⟩
  rw [adjustWeights, if_pos ⟨by linarith, by linarith⟩, truncate_of_neg (by linarith), hzero, Int.cast_zero, zero_mul,
    sub_zero]

lemma adjustWeights_before (hlow : 2 ≤ q) (hhigh : q ≤ 18) : ¬InTable ATXCorrections.kLenElevationAdjust
    (adjustWeights q) := by
  have hneg : ⌈(q - 20) / 2⌉ ≤ -1 := Int.ceil_le.mpr (by push_cast; linarith)
  have hle := Int.le_ceil ((q - 20) / 2)
  rw [adjustWeights, if_pos ⟨hlow, by linarith⟩, truncate_of_neg (by linarith)]
  intro h
  obtain ⟨hindex, -⟩ := h _ List.mem_cons_self (by
    show 1 - (q - 20 - ⌈(q - 20) / 2⌉ * 2) / 2 ≠ 0
    have hfactor : 1 ≤ 1 - (q - 20 - ⌈(q - 20) / 2⌉ * 2) / 2 := by linarith
    exact (zero_lt_one.trans_le hfactor).ne')
  exact absurd (hindex.trans hneg) (by decide)

lemma sameAdjust_of_nil (azimuth : ℤ) (h : 0 ≤ azimuth ∧ azimuth < circle)
    (hcpu : ATXCorrections.adjustWeights (ATXCorrections.degrees azimuth) = [])
    (hgpu : adjustWeights (ATXCorrections.degrees azimuth) = []) : SameAdjust c g azimuth := by
  rw [SameAdjust, ATXCorrections.elevationAdjust_eq_weigh h, elevationAdjust_eq_weigh, hcpu, hgpu]
  exact ⟨rfl, inTable_nil, inTable_nil⟩

lemma sameAdjust_inside (azimuth : ℤ) (hcopy : Copied c g) (h : 0 ≤ azimuth ∧ azimuth < circle)
    (hlow : 20 ≤ ATXCorrections.degrees azimuth) (hhigh : ATXCorrections.degrees azimuth ≤ 158) :
    SameAdjust c g azimuth := by
  rw [SameAdjust, ATXCorrections.elevationAdjust_eq_weigh h, elevationAdjust_eq_weigh,
    ATXCorrections.adjustWeights_inside hlow hhigh, adjustWeights_inside hlow hhigh]
  generalize ATXCorrections.degrees azimuth = q at hlow hhigh
  have hindex : 0 ≤ ⌊(q - 20) / 2⌋ := Int.floor_nonneg.mpr (by linarith)
  have hindex' : ⌊(q - 20) / 2⌋ ≤ 69 := by
    have hle := Int.floor_le ((q - 20) / 2)
    have hcast : (⌊(q - 20) / 2⌋ : ℚ) ≤ 69 := by linarith
    exact_mod_cast hcast
  by_cases hlast : ⌊(q - 20) / 2⌋ = 69
  · have hend : (q - 20 - ((69 : ℤ) : ℚ) * 2) / 2 = 0 := by
      have hle := Int.floor_le ((q - 20) / 2)
      rw [hlast] at hle
      push_cast at hle ⊢
      linarith
    rw [if_pos hlast, hlast, hend, weigh_single, weigh_between_zero]
    refine ⟨hcopy 69 (by decide) (by decide), ?_, inTable_between_zero (by decide) (by decide)⟩
    intro w hw _
    obtain rfl := List.mem_singleton.mp hw
    exact ⟨by decide, by decide⟩
  · rw [if_neg hlast]
    have hin : InTable ATXCorrections.kLenElevationAdjust
        (between ⌊(q - 20) / 2⌋ ((q - 20 - ⌊(q - 20) / 2⌋ * 2) / 2)) := by
      refine inTable_between hindex ?_
      rw [ATXCorrections.kLenElevationAdjust]
      omega
    exact ⟨weigh_congr hin hcopy, hin, hin⟩

/-- The kernel compares the azimuth with the step of 2 degrees instead of the start of 20 degrees: it agrees exactly
below 2 degrees, from 20 degrees on, and between 18 and 20 degrees where the extended first segment is 0. -/
theorem sameAdjust_iff (c : ATXCorrections) (g : Udp47ParserGpu) (azimuth : ℤ) (hcopy : Copied c g)
    (h : 0 ≤ azimuth ∧ azimuth < circle) :
    let q := ATXCorrections.degrees azimuth
    SameAdjust c g azimuth ↔ q < 2 ∨ 20 ≤ q ∨
      18 < q ∧ c.elevationAdjusts 0 * (22 - q) = c.elevationAdjusts 1 * (20 - q) := by
  intro q
  rcases lt_or_ge q 2 with htwo | htwo
  · exact iff_of_true (sameAdjust_of_nil azimuth h (ATXCorrections.adjustWeights_outside (Or.inl (by linarith)))
      (adjustWeights_outside (Or.inl htwo))) (Or.inl htwo)
  rcases lt_or_ge 158 q with hend | hend
  · exact iff_of_true (sameAdjust_of_nil azimuth h (ATXCorrections.adjustWeights_outside (Or.inr hend))
      (adjustWeights_outside (Or.inr hend))) (Or.inr (Or.inl (by linarith)))
  rcases lt_or_ge q 20 with hbeg | hbeg
  swap
  · exact iff_of_true (sameAdjust_inside azimuth hcopy h hbeg hend) (Or.inr (Or.inl hbeg))
  rcases le_or_gt q 18 with hbefore | hbefore
  · refine iff_of_false (fun hsame => adjustWeights_before htwo hbefore hsame.2.2) ?_
    rintro (hless | hmore | ⟨hmore, -⟩) <;> linarith
  · have hcpu := ATXCorrections.adjustWeights_outside (q := q) (Or.inl hbeg)
    have hgpu := adjustWeights_extended hbefore hbeg
    have hfirst : c.elevationAdjusts 0 = g.deles 0 := hcopy 0 (by decide) (by decide)
    have hsecond : c.elevationAdjusts 1 = g.deles (0 + 1) := hcopy 1 (by decide) (by decide)
    rw [SameAdjust, ATXCorrections.elevationAdjust_eq_weigh h, elevationAdjust_eq_weigh, hcpu, hgpu, weigh_nil,
      weigh_between, ← hfirst, ← hsecond]
    constructor
    · rintro ⟨hsame, -, -⟩
      exact Or.inr (Or.inr ⟨hbefore, by linarith⟩)
    · rintro (hless | hmore | ⟨-, hextended⟩)
      · linarith
      · linarith
      · exact ⟨by linarith, inTable_nil, inTable_between le_rfl (by decide)⟩

def evenTable : ATXCorrections := { (default : ATXCorrections) with elevationAdjusts := fun _ => 1 }

def evenCard : Udp47ParserGpu := { (default : Udp47ParserGpu) with deles := fun _ => 1 }

/-- A file of version 3 with the division 1; the entry at an offset is the offset. -/
def offsetFile : CorrectionData := fun o =>
  [0xEE, 0xFF, 0, 3, 0, 0, 1, 1, 0].getD o (if o % 2 = 0 then 0 else UInt8.ofNat o)

theorem sameAdjust_ninety :
    let p := (default : Udp47Parser).loadCorrectionString offsetFile
    let g := (default : Udp47ParserGpu).loadCorrectionString default offsetFile
    p.2 = 0 ∧ g.2 = 0 ∧ SameAdjust p.1.corrections g.1 (90 * 25600) ∧
      p.1.corrections.elevationAdjust (90 * 25600) = 85 := by
  intro p g
  have hcopied : Copied p.1.corrections g.1 := loadCorrectionString_copied default offsetFile default default rfl rfl
  refine ⟨rfl, rfl, ?_, by decide +kernel⟩
  exact (sameAdjust_iff p.1.corrections g.1 (90 * 25600) hcopied (by decide)).mpr
    (Or.inr (Or.inl (by decide +kernel)))

/-- At 19 degrees the kernel adds 1, the parser nothing. -/
theorem not_sameAdjust_nineteen : ¬∀ (c : ATXCorrections) (g : Udp47ParserGpu) (azimuth : ℤ), Copied c g →
    0 ≤ azimuth ∧ azimuth < circle → SameAdjust c g azimuth := by
  intro h
  have hsame := (h evenTable evenCard (19 * 25600) (fun _ _ _ => rfl) (by decide)).1
  have hcpu : evenTable.elevationAdjust (19 * 25600) = 0 := by decide +kernel
  have hgpu : evenCard.elevationAdjust (ATXCorrections.degrees (19 * 25600)) = 1 := by decide +kernel
  rw [hcpu, hgpu] at hsame
  exact absurd hsame (by decide)

end Udp47ParserGpu

end HesaiSdk.Parsing
