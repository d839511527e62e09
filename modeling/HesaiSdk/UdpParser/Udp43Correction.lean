import HesaiSdk.UdpParser.MirrorField
import Mathlib.Data.Rat.Floor
import Mathlib.Tactic.FieldSimp
import Mathlib.Tactic.LinearCombination
import Mathlib.Tactic.Linarith

/-! The calibration file of the AT128 and the interpolation in its angle offsets. -/

namespace HesaiSdk.Parsing

open Library Library.ByteLayout Lidar UdpProtocol

def at128LaserNum : ℕ := 128

/-- What is in the memory at which `LoadCorrectionString` is pointed. -/
abbrev CorrectionData := ℕ → UInt8

namespace CorrectionData

variable (data : CorrectionData)

def isDelimited : Bool := data 0 == 0xEE && data 1 == 0xFF

def version : UInt8 := data 3

def uint16At (o : ℕ) : ℕ := leNat (bytesAt data o 2)

def uint32At (o : ℕ) : UInt32 := UInt32.ofNat (leNat (bytesAt data o 4))

def int32At (o : ℕ) : ℤ := (leNat (bytesAt data o 4) : ℤ).bmod (2 ^ 32)

def int16At (o : ℕ) : ℤ := (leNat (bytesAt data o 2) : ℤ).bmod (2 ^ 16)

def int8At (o : ℕ) : ℤ := ((data o).toNat : ℤ).bmod (2 ^ 8)

end CorrectionData

def setFirst {α : Type} (n : ℕ) (new old : ℕ → α) (i : ℕ) : α := if i < n then new i else old i

lemma setFirst_of_lt {α : Type} {n i : ℕ} {new old : ℕ → α} (h : i < n) : setFirst n new old i = new i := if_pos h

lemma setFirst_of_le {α : Type} {n i : ℕ} {new old : ℕ → α} (h : n ≤ i) : setFirst n new old i = old i :=
  if_neg (Nat.not_lt.mpr h)

structure PandarATCorrectionsHeader where
  channelNumber : ℕ
  frameNumber : ℕ
  resolution : UInt8

namespace PandarATCorrectionsHeader

def sizeofHeader : ℕ := 16

def read (data : CorrectionData) : PandarATCorrectionsHeader := ⟨(data 4).toNat, (data 6).toNat, data 15⟩

variable (h : PandarATCorrectionsHeader)

def refused : Bool := decide (8 < h.frameNumber ∨ at128LaserNum < h.channelNumber)

def endOffset : ℕ := sizeofHeader + 4 * h.frameNumber

def azimuthOffset : ℕ := h.endOffset + 4 * h.frameNumber

def elevationOffset : ℕ := h.azimuthOffset + 4 * h.channelNumber

def adjustLength : ℕ := h.channelNumber * correctionAzimuthNum

def azimuthAdjustOffset : ℕ := h.elevationOffset + 4 * h.channelNumber

def elevationAdjustOffset : ℕ := h.azimuthAdjustOffset + h.adjustLength

end PandarATCorrectionsHeader

namespace PandarATCorrections

variable (data : CorrectionData) (h : PandarATCorrectionsHeader) (c : PandarATCorrections)

/-- The `memcpy` calls of version 5, and the first of the loops after them. -/
def copyFile : PandarATCorrections where
  frameNumber := h.frameNumber
  startFrame := setFirst h.frameNumber
    (fun i => data.uint32At (PandarATCorrectionsHeader.sizeofHeader + 4 * i) * h.resolution.toUInt32) c.startFrame
  endFrame := setFirst h.frameNumber
    (fun i => data.uint32At (h.endOffset + 4 * i) * h.resolution.toUInt32) c.endFrame
  azimuth := setFirst h.channelNumber (fun i => data.int32At (h.azimuthOffset + 4 * i)) c.azimuth
  elevation := setFirst h.channelNumber (fun i => data.int32At (h.elevationOffset + 4 * i)) c.elevation
  azimuthOffset := setFirst h.adjustLength (fun i => data.int8At (h.azimuthAdjustOffset + i)) c.azimuthOffset
  elevationOffset := setFirst h.adjustLength (fun i => data.int8At (h.elevationAdjustOffset + i)) c.elevationOffset

/-- The loops over the channels and over the offsets; the products are stored in 32 and in 8 bits. -/
def scaleChannels : PandarATCorrections :=
  { c with
    azimuth := setFirst h.channelNumber (fun i => (c.azimuth i * h.resolution.toNat).bmod (2 ^ 32)) c.azimuth
    elevation := setFirst h.channelNumber (fun i => (c.elevation i * h.resolution.toNat).bmod (2 ^ 32)) c.elevation
    azimuthOffset :=
      setFirst h.adjustLength (fun i => (c.azimuthOffset i * h.resolution.toNat).bmod (2 ^ 8)) c.azimuthOffset
    elevationOffset :=
      setFirst h.adjustLength (fun i => (c.elevationOffset i * h.resolution.toNat).bmod (2 ^ 8)) c.elevationOffset }

end PandarATCorrections

lemma checkedFile_cases {α : Type} {own : Prop} [Decidable own] {refused : Bool} {kept loaded other : α} :
    (¬own ∧ (if own then if refused then kept else loaded else other) = other) ∨
    (own ∧ refused = true ∧ (if own then if refused then kept else loaded else other) = kept) ∨
    (own ∧ refused = false ∧ (if own then if refused then kept else loaded else other) = loaded) := by
  by_cases hown : own
  · rw [if_pos hown]
    refine Or.inr ?_
    by_cases hrefused : refused = true
    · exact Or.inl ⟨hown, hrefused, if_pos hrefused⟩
    · exact Or.inr ⟨hown, Bool.eq_false_iff.mpr hrefused, if_neg hrefused⟩
  · exact Or.inl ⟨hown, if_neg hown⟩

namespace Udp43Parser

/-- The header is stored before it is checked. -/
def loadCorrectionString (data : CorrectionData) (p : Udp43Parser) : Udp43Parser × ℤ :=
  if data.isDelimited ∧ data.version = 5 then
    let header := PandarATCorrectionsHeader.read data
    if header.refused then
      ({ p with corrections := { p.corrections with frameNumber := header.frameNumber } }, -1)
    else
      ({ p with
          getCorrectionFile := true
          corrections := (p.corrections.copyFile data header).scaleChannels header }, 0)
  else (p, -1)

lemma loadCorrectionString_cases (data : CorrectionData) (p : Udp43Parser) :
    (¬(data.isDelimited = true ∧ data.version = 5) ∧ p.loadCorrectionString data = (p, -1)) ∨
    ((data.isDelimited = true ∧ data.version = 5) ∧ (PandarATCorrectionsHeader.read data).refused = true ∧
      p.loadCorrectionString data = ({ p with corrections := { p.corrections with
        frameNumber := (PandarATCorrectionsHeader.read data).frameNumber } }, -1)) ∨
    ((data.isDelimited = true ∧ data.version = 5) ∧ (PandarATCorrectionsHeader.read data).refused = false ∧
      p.loadCorrectionString data = ({ p with
        getCorrectionFile := true
        corrections := (p.corrections.copyFile data (PandarATCorrectionsHeader.read data)).scaleChannels
          (PandarATCorrectionsHeader.read data) }, 0)) := by
  rw [loadCorrectionString]
  exact checkedFile_cases

end Udp43Parser

/-- What a table of angle offsets holds: signed bytes, and nothing beyond the 128 channels. -/
structure OffsetTable (t : ℕ → ℤ) : Prop where
  int8 : ∀ i, -128 ≤ t i ∧ t i ≤ 127
  zero : ∀ i, at128LaserNum * correctionAzimuthNum ≤ i → t i = 0

namespace OffsetTable

variable {t u new : ℕ → ℤ} {n ch azi : ℕ}

lemma empty : OffsetTable fun _ => 0 := ⟨fun _ => by omega, fun _ _ => rfl⟩

lemma bmod_int8 (z : ℤ) : -128 ≤ z.bmod (2 ^ 8) ∧ z.bmod (2 ^ 8) ≤ 127 := by
  have hlow := Int.le_bmod (x := z) (m := 2 ^ 8) (by decide)
  have hhigh := Int.bmod_lt (x := z) (m := 2 ^ 8) (by decide)
  omega

lemma setFirst (h : OffsetTable t) (hnew : ∀ i, -128 ≤ new i ∧ new i ≤ 127)
    (hn : n ≤ at128LaserNum * correctionAzimuthNum) : OffsetTable (setFirst n new t) := by
  constructor
  · intro i
    by_cases hi : i < n
    · rw [setFirst_of_lt hi]
      exact hnew i
    · rw [setFirst_of_le (not_lt.mp hi)]
      exact h.int8 i
  · intro i hi
    rw [setFirst_of_le (hn.trans hi)]
    exact h.zero i hi

lemma scaled {old : ℕ → ℤ} (h : OffsetTable t) (hnew : ∀ i < n, new i = t i) (hold : ∀ i, n ≤ i → old i = t i) :
    Parsing.setFirst n (fun i => (Parsing.setFirst n new old i * (1 : ℕ)).bmod (2 ^ 8))
      (Parsing.setFirst n new old) = t := by
  funext i
  by_cases hi : i < n
  · rw [setFirst_of_lt hi, setFirst_of_lt hi, hnew i hi, Nat.cast_one, mul_one]
    have hbounds := h.int8 i
    exact Int.bmod_eq_of_le (by omega) (by omega)
  · rw [setFirst_of_le (not_lt.mp hi), setFirst_of_le (not_lt.mp hi), hold i (not_lt.mp hi)]

end OffsetTable

/-- The corrections after the calibration files have been loaded one after the other into a new parser. -/
def loaded (files : List CorrectionData) : PandarATCorrections :=
  (files.foldl (fun p data => (p.loadCorrectionString data).1) (default : Udp43Parser)).corrections

lemma loadCorrectionString_offsets (data : CorrectionData) (p : Udp43Parser)
    (h : OffsetTable p.corrections.azimuthOffset ∧ OffsetTable p.corrections.elevationOffset) :
    OffsetTable (p.loadCorrectionString data).1.corrections.azimuthOffset ∧
      OffsetTable (p.loadCorrectionString data).1.corrections.elevationOffset := by
  obtain ⟨-, heq⟩ | ⟨-, -, heq⟩ | ⟨-, hread, heq⟩ := p.loadCorrectionString_cases data
  · rwa [heq]
  · rwa [heq]
  · rw [heq]
    have hchannels : (PandarATCorrectionsHeader.read data).channelNumber ≤ at128LaserNum := by
      by_contra hmore
      rw [PandarATCorrectionsHeader.refused, decide_eq_false_iff_not] at hread
      exact hread (Or.inr (not_le.mp hmore))
    have hlength : (PandarATCorrectionsHeader.read data).adjustLength ≤ at128LaserNum * correctionAzimuthNum :=
      Nat.mul_le_mul_right _ hchannels
    have hbyte (o i : ℕ) : -128 ≤ data.int8At (o + i) ∧ data.int8At (o + i) ≤ 127 := OffsetTable.bmod_int8 _
    constructor
    · exact (h.1.setFirst (hbyte _) hlength).setFirst (fun i => OffsetTable.bmod_int8 _) hlength
    · exact (h.2.setFirst (hbyte _) hlength).setFirst (fun i => OffsetTable.bmod_int8 _) hlength

lemma loaded_offsets (files : List CorrectionData) :
    OffsetTable (loaded files).azimuthOffset ∧ OffsetTable (loaded files).elevationOffset := by
  have hrun (p : Udp43Parser) (h : OffsetTable p.corrections.azimuthOffset ∧
      OffsetTable p.corrections.elevationOffset) :
      let q := files.foldl (fun p data => (p.loadCorrectionString data).1) p
      OffsetTable q.corrections.azimuthOffset ∧ OffsetTable q.corrections.elevationOffset := by
    induction files generalizing p with
    | nil => exact h
    | cons data files ih => exact ih _ (loadCorrectionString_offsets data p h)
  exact hrun default ⟨OffsetTable.empty, OffsetTable.empty⟩

def offsetFile (t u : ℕ → ℤ) : CorrectionData := fun o =>
  if o < 16 then [0xEE, 0xFF, 0, 5, 128, 0, 0, 0, 0, 0, 0, 0, 0, 0, 0, 1].getD o 0
  else if o < 1040 then 0
  else if o < 24080 then UInt8.ofNat (t (o - 1040) % 256).toNat
  else UInt8.ofNat (u (o - 24080) % 256).toNat

lemma int8At_of_byte {data : CorrectionData} {o : ℕ} {z : ℤ} (h : -128 ≤ z ∧ z ≤ 127)
    (ho : data o = UInt8.ofNat (z % 256).toNat) : data.int8At o = z := by
  have hlow := Int.emod_nonneg z (b := 256) (by decide)
  have hhigh := Int.emod_lt_of_pos z (b := 256) (by decide)
  have hbyte : ((UInt8.ofNat (z % 256).toNat).toNat : ℤ) = z % 256 := by
    rw [UInt8.toNat_ofNat', Nat.mod_eq_of_lt (by omega), Int.toNat_of_nonneg hlow]
  have hmod : (z % ((2 ^ 8 : ℕ) : ℤ)).bmod (2 ^ 8) = z.bmod (2 ^ 8) := Int.emod_bmod z (2 ^ 8)
  unfold CorrectionData.int8At
  rw [ho, hbyte]
  exact hmod.trans (Int.bmod_eq_of_le (by omega) (by omega))

section OffsetFile

variable {t u : ℕ → ℤ} {i : ℕ}

lemma int8At_azimuth (ht : OffsetTable t) (hi : i < 128 * 180) : (offsetFile t u).int8At (1040 + i) = t i := by
  have hlow : ¬1040 + i < 16 := by omega
  have hmid : ¬1040 + i < 1040 := by omega
  have hhigh : 1040 + i < 24080 := by omega
  refine int8At_of_byte (ht.int8 i) ?_
  rw [offsetFile, if_neg hlow, if_neg hmid, if_pos hhigh, Nat.add_sub_cancel_left]

lemma int8At_elevation (hu : OffsetTable u) : (offsetFile t u).int8At (24080 + i) = u i := by
  have hlow : ¬24080 + i < 16 := by omega
  have hmid : ¬24080 + i < 1040 := by omega
  have hhigh : ¬24080 + i < 24080 := by omega
  refine int8At_of_byte (hu.int8 i) ?_
  rw [offsetFile, if_neg hlow, if_neg hmid, if_neg hhigh, Nat.add_sub_cancel_left]

end OffsetFile

lemma loaded_offsetFile {t u : ℕ → ℤ} (ht : OffsetTable t) (hu : OffsetTable u) :
    (loaded [offsetFile t u]).azimuthOffset = t ∧ (loaded [offsetFile t u]).elevationOffset = u := by
  obtain ⟨hother, -⟩ | ⟨-, hrefused, -⟩ | ⟨-, -, heq⟩ :=
    (default : Udp43Parser).loadCorrectionString_cases (offsetFile t u)
  · exact absurd ⟨rfl, rfl⟩ hother
  · exact Bool.noConfusion hrefused
  have hloaded : loaded [offsetFile t u] = ((default : PandarATCorrections).copyFile (offsetFile t u)
      ⟨128, 0, 1⟩).scaleChannels ⟨128, 0, 1⟩ := by
    rw [loaded, List.foldl_cons, List.foldl_nil, heq]
    rfl
  rw [hloaded]
  exact ⟨ht.scaled (fun i hi => int8At_azimuth ht hi) fun i hi => (ht.zero i hi).symm,
    hu.scaled (fun i _ => int8At_elevation hu) fun i hi => (hu.zero i hi).symm⟩

namespace PandarATCorrections

variable {t u : ℕ → ℤ} {ch azi : ℕ}

lemma abs_sub_round_le (q : ℚ) : |q - round q| ≤ 1 / 2 := by
  rw [abs_le, round]
  split_ifs
  · have hlow := Int.floor_le (q + 1 / 2)
    have hhigh := Int.lt_floor_add_one (q + 1 / 2)
    constructor <;> linarith
  · have hlow := Int.ceil_lt_add_one (q - 1 / 2)
    have hhigh := Int.le_ceil (q - 1 / 2)
    constructor <;> linarith

lemma round_near {e : ℤ} {d : ℚ} (hd : |d| < 1 / 2) : round (e + d) = e := by
  have hround := abs_le.mp (abs_sub_round_le (e + d))
  have hnear := abs_lt.mp hd
  have hlow : (e : ℚ) < round (e + d) + 1 := by linarith
  have hhigh : (round (e + d) : ℚ) < e + 1 := by linarith
  have hlow' : e < round (e + d) + 1 := by exact_mod_cast hlow
  have hhigh' : round (e + d) < e + 1 := by exact_mod_cast hhigh
  omega

def weight (azi : ℕ) : ℚ := (azi % step3 : ℕ) / step3

lemma adjust_eq : adjust t ch azi =
    round (t (ch * correctionAzimuthNum + azi / step3) + weight azi *
      (t (ch * correctionAzimuthNum + azi / step3 + 1) - t (ch * correctionAzimuthNum + azi / step3))) := by
  have hmod : azi - azi / step3 * step3 = azi % step3 := by
    rw [Nat.mul_comm]
    exact Nat.mod_eq_sub_mul_div.symm
  rw [adjust, hmod, weight]
  congr 1
  ring

lemma weight_nonneg : 0 ≤ weight azi := div_nonneg (Nat.cast_nonneg _) (Nat.cast_nonneg _)

lemma adjust_small_weight (ht : OffsetTable t) (hweight : azi % step3 ≤ 100) :
    adjust t ch azi = t (ch * correctionAzimuthNum + azi / step3) := by
  rw [adjust_eq]
  refine round_near ?_
  have hfirst := ht.int8 (ch * correctionAzimuthNum + azi / step3)
  have hnext := ht.int8 (ch * correctionAzimuthNum + azi / step3 + 1)
  have hdiff : |(t (ch * correctionAzimuthNum + azi / step3 + 1) - t (ch * correctionAzimuthNum + azi / step3) : ℚ)|
      ≤ 255 := by
    rw [← Int.cast_sub, ← Int.cast_abs]
    have hint : |t (ch * correctionAzimuthNum + azi / step3 + 1) - t (ch * correctionAzimuthNum + azi / step3)|
        ≤ 255 := abs_le.mpr ⟨by omega, by omega⟩
    exact_mod_cast hint
  have hw : weight azi ≤ 100 / 51200 := by
    have hcast : ((azi % step3 : ℕ) : ℚ) ≤ 100 := by exact_mod_cast hweight
    rw [weight, show ((step3 : ℕ) : ℚ) = 51200 by norm_num [step3]]
    exact div_le_div_of_nonneg_right hcast (by norm_num)
  rw [abs_mul, abs_of_nonneg weight_nonneg]
  calc weight azi * _ ≤ 100 / 51200 * 255 := mul_le_mul hw hdiff (abs_nonneg _) (by norm_num)
    _ < 1 / 2 := by norm_num

lemma adjust_own (ht : OffsetTable t) (hu : OffsetTable u) (hazi : azi < correctionAzimuthNum * step3)
    (hagree : ∀ i < correctionAzimuthNum, t (ch * correctionAzimuthNum + i) = u (ch * correctionAzimuthNum + i))
    (hown : azi < 179 * step3 + 101 ∨ ch = 127) : adjust t ch azi = adjust u ch azi := by
  have hstep : step3 = 51200 := rfl
  have hnum : correctionAzimuthNum = 180 := rfl
  have hfirst : azi / step3 < correctionAzimuthNum := (Nat.div_lt_iff_lt_mul (by decide)).mpr hazi
  by_cases hinner : azi / step3 + 1 < correctionAzimuthNum
  · rw [adjust_eq, adjust_eq, Nat.add_assoc, hagree _ hfirst, hagree _ hinner]
  · rcases hown with hsmall | rfl
    · have hweight : azi % step3 ≤ 100 := by
        rw [hnum, hstep] at hinner
        rw [hstep] at hsmall ⊢
        omega
      rw [adjust_small_weight ht hweight, adjust_small_weight hu hweight, hagree _ hfirst]
    · have hlast : at128LaserNum * correctionAzimuthNum ≤ 127 * correctionAzimuthNum + azi / step3 + 1 := by
        rw [at128LaserNum]
        omega
      rw [adjust_eq, adjust_eq, hagree _ hfirst, ht.zero _ hlast, hu.zero _ hlast]

def seam (ch : ℕ) (v : ℤ) : ℕ → ℤ := fun i =>
  if i = ch * correctionAzimuthNum + 179 then -128
  else if i = ch * correctionAzimuthNum + 180 then v
  else 0

lemma seam_offsets (ch : ℕ) (v : ℤ) (hch : ch < 127) (hv : -128 ≤ v ∧ v ≤ 127) : OffsetTable (seam ch v) := by
  constructor
  · intro i
    rw [seam]
    split_ifs <;> omega
  · intro i hi
    have hlow : ch * correctionAzimuthNum + 180 < i := by
      rw [at128LaserNum, correctionAzimuthNum] at hi
      rw [correctionAzimuthNum]
      omega
    rw [seam, if_neg (by omega), if_neg (by omega)]

lemma adjust_seam {v : ℤ} (hazi : azi / step3 = 179) :
    adjust (seam ch v) ch azi = round (-128 + weight azi * (v + 128)) := by
  have hlast : seam ch v (ch * correctionAzimuthNum + 179) = -128 := if_pos rfl
  have hnext : seam ch v (ch * correctionAzimuthNum + 179 + 1) = v := by
    rw [seam, if_neg (by omega), if_pos rfl]
  rw [adjust_eq, hazi, hlast, hnext]
  congr 1
  push_cast
  ring

/-- With both entries as far apart as bytes can be, the next channel counts from the weight 101/51200 on. -/
lemma adjust_seam_ne (hazi : azi / step3 = 179) (hweight : 101 ≤ azi % step3) :
    adjust (seam ch (-128)) ch azi ≠ adjust (seam ch 127) ch azi := by
  have hw : 101 / 51200 ≤ weight azi := by
    have hcast : (101 : ℚ) ≤ (azi % step3 : ℕ) := by exact_mod_cast hweight
    rw [weight, show ((step3 : ℕ) : ℚ) = 51200 by norm_num [step3]]
    exact div_le_div_of_nonneg_right hcast (by norm_num)
  rw [adjust_seam hazi, adjust_seam hazi]
  intro heq
  have hlow : round (-128 + weight azi * (((-128 : ℤ) : ℚ) + 128)) = -128 := by
    push_cast
    rw [neg_add_cancel, mul_zero]
    exact round_near (e := -128) (by norm_num)
  rw [hlow] at heq
  have hhigh := (abs_le.mp (abs_sub_round_le (-128 + weight azi * (((127 : ℤ) : ℚ) + 128)))).2
  rw [← heq] at hhigh
  push_cast at hhigh
  linarith

/-- Loaded tables that agree on the 180 entries of a channel give it the same offsets. -/
def OwnChannel (ch azi : ℕ) : Prop := ∀ files files' : List CorrectionData,
  (∀ i < correctionAzimuthNum,
    (loaded files).azimuthOffset (ch * correctionAzimuthNum + i) =
        (loaded files').azimuthOffset (ch * correctionAzimuthNum + i) ∧
      (loaded files).elevationOffset (ch * correctionAzimuthNum + i) =
        (loaded files').elevationOffset (ch * correctionAzimuthNum + i)) →
  (loaded files).getAzimuthAdjustV3 ch azi = (loaded files').getAzimuthAdjustV3 ch azi ∧
    (loaded files).getElevationAdjustV3 ch azi = (loaded files').getElevationAdjustV3 ch azi

lemma seam_own {i : ℕ} (hi : i < correctionAzimuthNum) :
    seam ch (-128) (ch * correctionAzimuthNum + i) = seam ch 127 (ch * correctionAzimuthNum + i) := by
  rw [correctionAzimuthNum] at hi
  have hne : ¬ch * correctionAzimuthNum + i = ch * correctionAzimuthNum + 180 := by omega
  rw [seam, seam, if_neg hne, if_neg hne]

lemma not_ownChannel_of_weight (hch : ch < 127) (hlast : azi / step3 = 179) (hweight : 101 ≤ azi % step3) :
    ¬OwnChannel ch azi := by
  intro hown
  have hlow := seam_offsets ch (-128) hch (by omega)
  have hhigh := seam_offsets ch 127 hch (by omega)
  obtain ⟨hazimuth, helevation⟩ := loaded_offsetFile hlow hlow
  obtain ⟨hazimuth', helevation'⟩ := loaded_offsetFile hhigh hhigh
  have hagree := hown [offsetFile (seam ch (-128)) (seam ch (-128))] [offsetFile (seam ch 127) (seam ch 127)]
  rw [hazimuth, hazimuth', helevation, helevation'] at hagree
  obtain ⟨heq, -⟩ := hagree fun i hi => ⟨seam_own hi, seam_own hi⟩
  rw [getAzimuthAdjustV3, getAzimuthAdjustV3, hazimuth, hazimuth'] at heq
  exact adjust_seam_ne hlast hweight heq

/-- The next channel has no say exactly below 0.5/255 of the way through the last segment, and for the last channel,
whose successor is never filled. -/
theorem ownChannel_iff (ch azi : ℕ) (hch : ch < at128LaserNum) (hazi : (azi : ℤ) < circle) :
    OwnChannel ch azi ↔ azi < 179 * step3 + 101 ∨ ch = 127 := by
  have hturn : azi < correctionAzimuthNum * step3 := by
    have hcircle : circle = 180 * 51200 := by decide
    rw [correctionAzimuthNum, step3]
    omega
  constructor
  · intro hown
    by_contra hbeyond
    obtain ⟨hfar, hinner⟩ := not_or.mp hbeyond
    rw [correctionAzimuthNum, step3] at hturn
    rw [step3] at hfar
    have hlast : azi / step3 = 179 := by
      rw [step3]
      omega
    have hweight : 101 ≤ azi % step3 := by
      rw [step3]
      omega
    have hch' : ch < 127 := by
      rw [at128LaserNum] at hch
      omega
    exact not_ownChannel_of_weight hch' hlast hweight hown
  · intro hown files files' hagree
    obtain ⟨hazimuth, helevation⟩ := loaded_offsets files
    obtain ⟨hazimuth', helevation'⟩ := loaded_offsets files'
    exact ⟨adjust_own hazimuth hazimuth' hturn (fun i hi => (hagree i hi).1) hown,
      adjust_own helevation helevation' hturn (fun i hi => (hagree i hi).2) hown⟩

theorem ownChannel_last : OwnChannel 127 9215999 :=
  (ownChannel_iff 127 9215999 (by decide) (by decide)).mpr (Or.inr rfl)

theorem not_ownChannel_first : ¬∀ ch azi : ℕ, ch < at128LaserNum → (azi : ℤ) < circle → OwnChannel ch azi := by
  intro h
  have hfirst : ¬OwnChannel 0 9200000 := not_ownChannel_of_weight (by decide) (by decide) (by decide)
  exact hfirst (h 0 9200000 (by decide) (by decide))

end PandarATCorrections

end HesaiSdk.Parsing
