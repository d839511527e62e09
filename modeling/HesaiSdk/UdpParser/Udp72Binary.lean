import HesaiSdk.UdpParser.BinaryCorrection
import HesaiSdk.UdpParser.Udp72Parser

/-! The binary calibration files of the FT120, and the tables that loading them fills. -/

namespace HesaiSdk.Parsing

open Library Library.ByteLayout

section Entries

variable {data : CorrectionData}

lemma int16At_inj {o o' : ℕ} : data.int16At o = data.int16At o' ↔ data o = data o' ∧ data (o + 1) = data (o' + 1) := by
  have hread (o : ℕ) : leNat (bytesAt data o 2) = (data o).toNat + 256 * (data (o + 1)).toNat := by
    simp [bytesAt, List.range_succ]
  have h0 := (data o).toNat_lt
  have h1 := (data (o + 1)).toNat_lt
  have h0' := (data o').toNat_lt
  have h1' := (data (o' + 1)).toNat_lt
  unfold CorrectionData.int16At
  rw [hread, hread, ← UInt8.toNat_inj, ← UInt8.toNat_inj, Int.bmod_def, Int.bmod_def]
  norm_num
  omega

end Entries

inductive FtVersion where
  | v0
  | v1
deriving DecidableEq

namespace FtVersion

def number : FtVersion → UInt8
  | v0 => 0
  | v1 => 1

def angleSize : FtVersion → ℕ
  | v0 => 2
  | v1 => 4

def Angle : FtVersion → Type
  | v0 => Int16
  | v1 => Int32

def toInt : (v : FtVersion) → v.Angle → ℤ
  | v0, angle => Int16.toInt angle
  | v1, angle => Int32.toInt angle

def table : (v : FtVersion) → ℕ → (ℕ → v.Angle) → List UInt8
  | v0, n, angle => leTable 2 n fun i => (Int16.toUInt16 (angle i)).toNat
  | v1, n, angle => leTable 4 n fun i => (Int32.toUInt32 (angle i)).toNat

lemma length_table (v : FtVersion) (n : ℕ) (angle : ℕ → v.Angle) : (v.table n angle).length = v.angleSize * n := by
  cases v with
  | v0 => exact length_leTable 2 n _
  | v1 => exact length_leTable 4 n _

end FtVersion

/-- A calibration file of the FT120; the angles are stored row by row, a row being a column of the sensor. -/
structure FtFile where
  version : FtVersion
  majorVersion : UInt8
  reserved : UInt8 × UInt8
  columnNumber : UInt8
  channelNumber : UInt8
  resolution : UInt8
  azimuth : ℕ → version.Angle
  elevation : ℕ → version.Angle
  hash : List UInt8

namespace FtFile

variable (f : FtFile)

def angleNum : ℕ := f.columnNumber.toNat * f.channelNumber.toNat

def headerBytes : List UInt8 :=
  [0xEE, 0xFF, f.majorVersion, f.version.number, f.reserved.1, f.reserved.2, f.columnNumber, f.channelNumber,
    f.resolution]

def angleBytes : List UInt8 := f.version.table f.angleNum f.azimuth ++ f.version.table f.angleNum f.elevation

def bytes : List UInt8 := f.headerBytes ++ (f.angleBytes ++ f.hash)

def Decoded (c : PandarFTCorrections) : Prop :=
  ∀ row < f.columnNumber.toNat, ∀ col < f.channelNumber.toNat,
    c.azimuths col row =
      f.version.toInt (f.azimuth (row * f.channelNumber.toNat + col)) * f.resolution.toNat ∧
    c.elevations col row =
      f.version.toInt (f.elevation (row * f.channelNumber.toNat + col)) * f.resolution.toNat

def RepeatsHeader : Prop := ∀ o < f.angleBytes.length, f.angleBytes[o]? = f.headerBytes[o % 9]?

def header : PandarFTCorrectionsHeader := ⟨f.columnNumber.toNat, f.channelNumber.toNat, f.resolution.toNat⟩

variable {f} {data : CorrectionData} {c : PandarFTCorrections}

lemma length_headerBytes : f.headerBytes.length = 9 := rfl

lemma length_angleBytes : f.angleBytes.length = 2 * (f.version.angleSize * f.angleNum) := by
  rw [angleBytes, List.length_append, FtVersion.length_table, FtVersion.length_table]
  omega

lemma holds_parts (h : Holds data 0 f.bytes) : Holds data 0 f.headerBytes ∧ Holds data 9 f.angleBytes := by
  rw [bytes, holds_append, holds_append] at h
  exact ⟨h.1, h.2.1⟩

lemma read_header (h : Holds data 0 f.headerBytes) : data.isDelimited = true ∧ data.version = f.version.number ∧
    PandarFTCorrectionsHeader.read data = f.header := by
  simp only [headerBytes, holds_cons] at h
  obtain ⟨h0, h1, -, h3, -, -, h6, h7, h8, -⟩ := h
  refine ⟨?_, h3, ?_⟩
  · rw [CorrectionData.isDelimited, h0, h1]
    rfl
  · rw [PandarFTCorrectionsHeader.read, h6, h7, h8]
    rfl

lemma decoded_copyFile_iff {angles : ℕ → ℤ} : f.Decoded (c.copyFile f.header angles) ↔
    ∀ i < f.angleNum, (angles i : ℚ) * f.resolution.toNat = f.version.toInt (f.azimuth i) * f.resolution.toNat ∧
      (angles (f.angleNum + i) : ℚ) * f.resolution.toNat =
        f.version.toInt (f.elevation i) * f.resolution.toNat := by
  have hentry {row col : ℕ} (hrow : row < f.columnNumber.toNat) (hcol : col < f.channelNumber.toNat) :
      (c.copyFile f.header angles).azimuths col row =
        angles (row * f.channelNumber.toNat + col) * f.resolution.toNat ∧
      (c.copyFile f.header angles).elevations col row =
        angles (f.angleNum + (row * f.channelNumber.toNat + col)) * f.resolution.toNat := by
    have hin : row < f.header.columnNumber ∧ col < f.header.channelNumber := ⟨hrow, hcol⟩
    simp only [PandarFTCorrections.copyFile, PandarFTCorrections.fillTable, if_pos hin]
    rw [Nat.zero_add, ← Nat.add_assoc]
    exact ⟨rfl, rfl⟩
  constructor
  · intro h i hi
    have hchannel : 0 < f.channelNumber.toNat := Nat.pos_of_ne_zero fun h0 => by simp [angleNum, h0] at hi
    have hrow : i / f.channelNumber.toNat < f.columnNumber.toNat := Nat.div_lt_of_lt_mul (by rwa [Nat.mul_comm])
    have hcol := Nat.mod_lt i hchannel
    have hdecoded := h _ hrow _ hcol
    rw [(hentry hrow hcol).1, (hentry hrow hcol).2, Nat.div_add_mod'] at hdecoded
    exact hdecoded
  · intro h row hrow col hcol
    have hi : row * f.channelNumber.toNat + col < f.angleNum := calc
      row * f.channelNumber.toNat + col < (row + 1) * f.channelNumber.toNat := by
        rw [Nat.succ_mul]
        omega
      _ ≤ f.angleNum := Nat.mul_le_mul_right _ hrow
    rw [(hentry hrow hcol).1, (hentry hrow hcol).2]
    exact h _ hi

lemma stored_v0 {n : ℕ} {azimuth elevation : ℕ → Int16}
    (h : Holds data 9 (leTable 2 n (fun i => (azimuth i).toUInt16.toNat) ++
      leTable 2 n (fun i => (elevation i).toUInt16.toNat))) :
    ∀ i < n, data.int16At (9 + 2 * i) = (azimuth i).toInt ∧
      data.int16At (9 + 2 * (n + i)) = (elevation i).toInt := by
  rw [holds_append, length_leTable] at h
  intro i hi
  refine ⟨int16At_of_leTable h.1 hi, ?_⟩
  rw [Nat.mul_add, ← Nat.add_assoc]
  exact int16At_of_leTable h.2 hi

lemma stored_v1 {n : ℕ} {azimuth elevation : ℕ → Int32}
    (h : Holds data 9 (leTable 4 n (fun i => (azimuth i).toUInt32.toNat) ++
      leTable 4 n (fun i => (elevation i).toUInt32.toNat))) :
    ∀ i < n, data.int32At (9 + 4 * i) = (azimuth i).toInt ∧
      data.int32At (9 + 4 * (n + i)) = (elevation i).toInt := by
  rw [holds_append, length_leTable] at h
  intro i hi
  refine ⟨int32At_of_leTable h.1 hi, ?_⟩
  rw [Nat.mul_add, ← Nat.add_assoc]
  exact int32At_of_leTable h.2 hi

lemma getElem?_of_holds {bytes : List UInt8} {o i : ℕ} (h : Holds data o bytes) (hi : i < bytes.length) :
    bytes[i]? = some (data (o + i)) := by
  have hbytes := bytesAt_of_holds h rfl
  rw [← hbytes, bytesAt, List.getElem?_map, List.getElem?_range hi, Option.map_some]

lemma repeats_iff {α : Type} (d : ℕ → α) {w n : ℕ} (hw : 0 < w) :
    (∀ o < n, d (w + o) = d o) ↔ ∀ o < n, d (w + o) = d (o % w) := by
  have hwrap (o : ℕ) (ho : w ≤ o) : w + (o - w) = o ∧ (o - w) % w = o % w :=
    ⟨Nat.add_sub_cancel' ho, (Nat.mod_eq_sub_mod ho).symm⟩
  constructor
  · intro h o
    induction o using Nat.strong_induction_on with
    | _ o ih =>
      intro ho
      rcases Nat.lt_or_ge o w with hlt | hge
      · rw [h o ho, Nat.mod_eq_of_lt hlt]
      · obtain ⟨hadd, hmod⟩ := hwrap o hge
        have hearlier := ih (o - w) (by omega) (by omega)
        rw [hadd, hmod] at hearlier
        rw [h o ho, hearlier]
  · intro h o ho
    rcases Nat.lt_or_ge o w with hlt | hge
    · rw [h o ho, Nat.mod_eq_of_lt hlt]
    · obtain ⟨hadd, hmod⟩ := hwrap o hge
      have hearlier := h (o - w) (by omega)
      rw [hadd, hmod] at hearlier
      rw [h o ho, hearlier]

lemma repeatsHeader_iff (h : Holds data 0 f.bytes) : f.RepeatsHeader ↔
    ∀ o < f.angleBytes.length, data (9 + o) = data o := by
  obtain ⟨hheader, hangles⟩ := holds_parts h
  rw [repeats_iff data (by decide : 0 < 9), RepeatsHeader]
  refine forall₂_congr fun o ho => ?_
  have hbyte : f.headerBytes[o % 9]? = some (data (0 + o % 9)) :=
    getElem?_of_holds hheader (Nat.mod_lt o (by decide : 0 < 9))
  rw [getElem?_of_holds hangles ho, hbyte, Nat.zero_add, Option.some_inj]

/-- Version 0 reads the pairs of bytes from the start of the file, nine bytes too early. -/
lemma int16At_shifted_iff {n : ℕ} : (∀ k < 2 * n, data.int16At (2 * k) = data.int16At (9 + 2 * k)) ↔
    ∀ o < 2 * (2 * n), data (9 + o) = data o := by
  constructor
  · intro h o ho
    have hpair := int16At_inj.mp (h (o / 2) (by omega))
    rcases Nat.mod_two_eq_zero_or_one o with heven | hodd
    · have ho2 : 2 * (o / 2) = o := by omega
      rw [ho2] at hpair
      exact hpair.1.symm
    · have ho2 : 2 * (o / 2) + 1 = o := by omega
      rw [Nat.add_assoc, ho2] at hpair
      exact hpair.2.symm
  · intro h k hk
    refine int16At_inj.mpr ⟨(h (2 * k) (by omega)).symm, ?_⟩
    rw [Nat.add_assoc]
    exact (h (2 * k + 1) (by omega)).symm

lemma scaled_iff {n r : ℕ} {a b : ℕ → ℤ} :
    (∀ i < n, (a i : ℚ) * r = b i * r ∧ (a (n + i) : ℚ) * r = b (n + i) * r) ↔ r = 0 ∨ ∀ k < 2 * n, a k = b k := by
  rcases Nat.eq_zero_or_pos r with rfl | hr
  · simp
  · have hr0 : (r : ℚ) ≠ 0 := Nat.cast_ne_zero.mpr hr.ne'
    simp only [mul_eq_mul_right_iff, hr0, or_false, Int.cast_inj, hr.ne', false_or]
    constructor
    · intro h k hk
      rcases Nat.lt_or_ge k n with hlt | hge
      · exact (h k hlt).1
      · have hsecond := (h (k - n) (by omega)).2
        rwa [Nat.add_sub_cancel' hge] at hsecond
    · intro h i hi
      exact ⟨h i (by omega), h (n + i) (by omega)⟩

section Load

variable {p : Udp72Parser}

lemma load_of_delimited (h : Holds data 0 f.headerBytes) : (p.loadCorrectionDatData data).2 = 0 ∧
    (p.loadCorrectionDatData data).1.corrections = p.corrections.copyFile f.header (match f.version with
      | .v0 => fun i => data.int16At (2 * i)
      | .v1 => fun i => data.int32At (9 + 4 * i)) := by
  obtain ⟨hdelimited, hversion, hheader⟩ := read_header h
  rw [Udp72Parser.loadCorrectionDatData, hdelimited, hversion, hheader]
  cases f.version with
  | v0 => exact ⟨rfl, rfl⟩
  | v1 => exact ⟨rfl, rfl⟩

lemma decoded_v1 (h : Holds data 0 f.bytes) (hversion : f.version = .v1) :
    f.Decoded (p.loadCorrectionDatData data).1.corrections := by
  obtain ⟨hheader, hangles⟩ := holds_parts h
  rw [(load_of_delimited hheader).2, decoded_copyFile_iff]
  cases f with
  | mk version _ _ _ _ _ azimuth elevation _ =>
    obtain rfl := hversion
    intro i hi
    obtain ⟨hazimuth, helevation⟩ := stored_v1 hangles i hi
    dsimp only
    rw [hazimuth, helevation]
    exact ⟨rfl, rfl⟩

lemma decoded_v0_iff (h : Holds data 0 f.bytes) (hversion : f.version = .v0) :
    f.Decoded (p.loadCorrectionDatData data).1.corrections ↔ f.resolution = 0 ∨ f.RepeatsHeader := by
  obtain ⟨hheader, hangles⟩ := holds_parts h
  have hlength : f.angleBytes.length = 2 * (2 * f.angleNum) := by rw [length_angleBytes, hversion]; rfl
  rw [(load_of_delimited hheader).2, decoded_copyFile_iff, repeatsHeader_iff h, hlength, ← int16At_shifted_iff]
  cases f with
  | mk version majorVersion reserved columnNumber channelNumber resolution azimuth elevation hash =>
    obtain rfl := hversion
    have hstored := stored_v0 hangles
    have hresolution : resolution = 0 ↔ resolution.toNat = 0 := by
      rw [← UInt8.toNat_inj]
      rfl
    dsimp only at hstored ⊢
    rw [hresolution, ← scaled_iff]
    refine forall₂_congr fun i hi => ?_
    rw [(hstored i hi).1, (hstored i hi).2]
    rfl

end Load

/-- A well-formed file is decoded exactly if it has version 1, the resolution 0, or angles that repeat the header. -/
theorem loadCorrectionDatData_decoded_iff (f : FtFile) (data : CorrectionData) (h : Holds data 0 f.bytes)
    (p : Udp72Parser) :
    ((p.loadCorrectionDatData data).2 = 0 ∧ f.Decoded (p.loadCorrectionDatData data).1.corrections) ↔
      f.version = .v1 ∨ f.resolution = 0 ∨ f.RepeatsHeader := by
  rw [and_iff_right (load_of_delimited (holds_parts h).1).1]
  cases hversion : f.version with
  | v1 => exact iff_of_true (decoded_v1 h hversion) (Or.inl rfl)
  | v0 =>
    rw [decoded_v0_iff h hversion]
    exact (or_iff_right (by decide)).symm

def oneAngle (version : FtVersion) (angle : version.Angle) : FtFile :=
  ⟨version, 0, (0, 0), 1, 1, 1, fun _ => angle, fun _ => angle, List.replicate 32 0⟩

/-- Two columns of three channels, in steps of 4. -/
def sixAngles : FtFile :=
  ⟨.v1, 0, (0, 0), 2, 3, 4, fun i => Int32.ofNat (100 * i), fun i => -Int32.ofNat i, List.replicate 32 0⟩

theorem loadCorrectionDatData_decoded_v1 :
    let c := ((default : Udp72Parser).loadCorrectionDatData (overlay sixAngles.bytes fun _ => 0)).1.corrections
    ((default : Udp72Parser).loadCorrectionDatData (overlay sixAngles.bytes fun _ => 0)).2 = 0 ∧ sixAngles.Decoded c ∧
      c.azimuths 2 1 = 2000 ∧ c.elevations 2 1 = -20 := by
  intro c
  obtain ⟨hret, hdecoded⟩ := (loadCorrectionDatData_decoded_iff sixAngles _ (holds_overlay _) default).mpr (Or.inl rfl)
  obtain ⟨hazimuth, helevation⟩ := hdecoded 1 (by decide) 2 (by decide)
  exact ⟨hret, hdecoded, hazimuth.trans (by decide +kernel), helevation.trans (by decide +kernel)⟩

/-- A file of version 0 with a single column and channel, both angles 5: the azimuth read is the delimiter. -/
theorem loadCorrectionDatData_decoded_not :
    ¬(((default : Udp72Parser).loadCorrectionDatData
        (overlay (oneAngle .v0 (5 : Int16)).bytes fun _ => 0)).2 = 0 ∧
      (oneAngle .v0 (5 : Int16)).Decoded ((default : Udp72Parser).loadCorrectionDatData
        (overlay (oneAngle .v0 (5 : Int16)).bytes fun _ => 0)).1.corrections) := by
  rintro ⟨-, hdecoded⟩
  rw [decoded_v0_iff (holds_overlay _) rfl] at hdecoded
  cases hdecoded with
  | inl hresolution => exact absurd hresolution (by decide)
  | inr hrepeats => exact absurd (hrepeats 0 (by decide)) (by decide)

end FtFile

end HesaiSdk.Parsing
