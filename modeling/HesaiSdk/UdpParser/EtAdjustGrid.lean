import HesaiSdk.UdpParser.EtCompute

/-! The grids of angle offsets in the calibration files of the ET lidars. -/

namespace HesaiSdk.Parsing

open Library Library.BlockWalk Lidar UdpProtocol

section Quotients

variable {a b h v : ℕ}

lemma truncate_natQuotient (a b : ℕ) : truncate ((a : ℚ) / b) = (a / b : ℕ) := by
  have hnonneg : (0 : ℚ) ≤ (a : ℚ) / b := by positivity
  rw [truncate_of_nonneg hnonneg, Rat.floor_natCast_div_natCast, Int.natCast_div]

lemma truncate_quotient_succ (ha : 0 < b) : truncate ((a : ℚ) / b + 1) = (a / b + 1 : ℕ) := by
  have hb : (b : ℚ) ≠ 0 := by positivity
  have hsum : (a : ℚ) / b + 1 = ((a + b : ℕ) : ℚ) / b := by
    push_cast
    field_simp
  rw [hsum, truncate_natQuotient, Nat.add_div_right a ha]

lemma quotient_steps {resolution : ℚ} (h : resolution ≠ 0) : (a * resolution : ℚ) / (b * resolution) = a / b :=
  mul_div_mul_right _ _ h

lemma truncate_quotient_product (hh : 0 < h) (hv : 0 < v) :
    truncate (((a : ℚ) / h + 1) * ((b : ℚ) / v + 1)) = ((a + h) * (b + v) / (h * v) : ℕ) := by
  have hh' : (h : ℚ) ≠ 0 := by positivity
  have hv' : (v : ℚ) ≠ 0 := by positivity
  have hproduct : ((a : ℚ) / h + 1) * ((b : ℚ) / v + 1) = (((a + h) * (b + v) : ℕ) : ℚ) / (h * v : ℕ) := by
    push_cast
    field_simp
  rw [hproduct, truncate_natQuotient]

lemma quotient_product_iff (hh : 0 < h) (hv : 0 < v) :
    (a + h) * (b + v) / (h * v) = (a / h + 1) * (b / v + 1) ↔
      (a / h + 1) * (b % v) * h + (b / v + 1) * (a % h) * v + a % h * (b % v) < h * v := by
  have hpos : 0 < h * v := Nat.mul_pos hh hv
  have hsplit : (a + h) * (b + v) = ((a / h + 1) * (b % v) * h + (b / v + 1) * (a % h) * v + a % h * (b % v)) +
      h * v * ((a / h + 1) * (b / v + 1)) := by
    conv_lhs => rw [← Nat.div_add_mod a h, ← Nat.div_add_mod b v]
    ring
  rw [hsplit, Nat.add_mul_div_left _ _ hpos, Nat.add_eq_right, Nat.div_eq_zero_iff]
  constructor
  · rintro (hzero | hlt)
    · omega
    · exact hlt
  · exact Or.inr

end Quotients

namespace ETCorrections

section Grid

variable {c : ETCorrections} {round : ℚ → ℚ} {elevationFov resolution azi ele : ℚ} {turn : ℤ} {table : EtTable}

lemma allLog_adjust {P : EtAccess → Prop} : AllLog P (c.adjust round elevationFov resolution table azi ele turn) ↔
    (0 ≤ c.offsetIndex1 round resolution azi ∧
        c.offsetIndex1 round resolution azi < c.azimuthOffsetNum round resolution - 1 →
      0 ≤ c.offsetIndex2 round elevationFov resolution ele ∧
        c.offsetIndex2 round elevationFov resolution ele < c.elevationOffsetNum round elevationFov resolution - 1 →
      ∀ i ∈ [0, 1], ∀ j ∈ [0, 1], P (.adjust table (c.offsetIndex1 round resolution azi +
        (c.offsetIndex2 round elevationFov resolution ele + j) * c.azimuthOffsetNum round resolution +
        c.azimuthOffsetNum round resolution * c.elevationOffsetNum round elevationFov resolution * turn + i))) := by
  have hread (index : ℤ) : AllLog P (c.readAdjust table index) ↔ P (.adjust table index) := by
    cases table <;> simp [readAdjust]
  simp only [adjust]
  generalize c.offsetIndex1 round resolution azi = o1
  generalize c.offsetIndex2 round elevationFov resolution ele = o2
  generalize c.azimuthOffsetNum round resolution = n1
  generalize c.elevationOffsetNum round elevationFov resolution = n2
  split_ifs with hhigh hlow
  · refine iff_of_true (allLog_pure _) fun h1 h2 => ?_
    omega
  · refine iff_of_true (allLog_pure _) fun h1 h2 => ?_
    omega
  · have hinside : (0 ≤ o1 ∧ o1 < n1 - 1) ∧ 0 ≤ o2 ∧ o2 < n2 - 1 := by omega
    simp only [allLog_bind, hread, allLog_pure, and_true, hinside.1, hinside.2, forall_const, List.mem_cons,
      List.not_mem_nil, or_false, forall_eq_or_imp, forall_eq, add_zero]
    tauto

end Grid

section Sizes

variable {c : ETCorrections}

lemma azimuthOffsetNum_eq {resolution : ℚ} {n : ℕ} (hresolution : resolution ≠ 0) (hfov : azimuthFov = n * resolution)
    (h : 0 < c.azimuthAdjustInterval.toNat) :
    c.azimuthOffsetNum id resolution = (n / c.azimuthAdjustInterval.toNat + 1 : ℕ) := by
  rw [azimuthOffsetNum, azimuthStep, id, id, id, hfov, quotient_steps hresolution, truncate_quotient_succ h]

lemma elevationOffsetNum_eq {elevationFov resolution : ℚ} {n : ℕ} (hresolution : resolution ≠ 0)
    (hfov : elevationFov = n * resolution) (h : 0 < c.elevationAdjustInterval.toNat) :
    c.elevationOffsetNum id elevationFov resolution = (n / c.elevationAdjustInterval.toNat + 1 : ℕ) := by
  rw [elevationOffsetNum, elevationStep, id, id, id, hfov, quotient_steps hresolution, truncate_quotient_succ h]

lemma azimuthOffsetNum_V2 (h : 0 < c.azimuthAdjustInterval.toNat) :
    c.azimuthOffsetNum id resolutionV2 = (240 / c.azimuthAdjustInterval.toNat + 1 : ℕ) :=
  azimuthOffsetNum_eq (by norm_num [resolutionV2]) (by norm_num [azimuthFov, resolutionV2]) h

lemma elevationOffsetNum_V2 (h : 0 < c.elevationAdjustInterval.toNat) :
    c.elevationOffsetNum id elevationFovV2 resolutionV2 = (50 / c.elevationAdjustInterval.toNat + 1 : ℕ) :=
  elevationOffsetNum_eq (by norm_num [resolutionV2]) (by norm_num [elevationFovV2, resolutionV2]) h

lemma angleOffsetLenV2_eq {azimuthInterval elevationInterval : UInt8} (hh : 0 < azimuthInterval.toNat)
    (hv : 0 < elevationInterval.toNat) : angleOffsetLenV2 azimuthInterval elevationInterval =
      (240 + azimuthInterval.toNat) * (50 + elevationInterval.toNat) /
        (azimuthInterval.toNat * elevationInterval.toNat) := by
  have hazi : (120 : ℚ) = (240 : ℕ) * (1 / 2) := by norm_num
  have hele : (25 : ℚ) = (50 : ℕ) * (1 / 2) := by norm_num
  have hhalf : (1 / 2 : ℚ) ≠ 0 := by norm_num
  rw [angleOffsetLenV2, hazi, hele, quotient_steps hhalf, quotient_steps hhalf, truncate_quotient_product hh hv,
    Int.toNat_natCast]

end Sizes

end ETCorrections

section Loaded

variable {p q : EtParser ETCorrections} {stored c c' : ETCorrections} {refused : Bool}
  {copied : Option ETCorrections} {data : CorrectionData} {o : ℕ} {len : UInt8 → UInt8 → ℕ}

lemma EtParser.commit_eq_zero (h : p.commit stored refused copied = some (q, 0)) :
    refused = false ∧ ∃ c, copied = some c ∧ q.corrections = c := by
  rw [commit] at h
  cases refused with
  | true => simp at h
  | false =>
    obtain ⟨c, hc, hq⟩ := Option.map_eq_some_iff.mp h
    exact ⟨rfl, c, hc, by rw [← (Prod.mk.inj hq).1]⟩

structure ETCorrections.Adjusted (data : CorrectionData) (o : ℕ) (len : UInt8 → UInt8 → ℕ) (c c' : ETCorrections) :
    Prop where
  azimuthInterval : 0 < c'.azimuthAdjustInterval.toNat
  elevationInterval : 0 < c'.elevationAdjustInterval.toNat
  azimuthAdjust : ∀ i < len c'.azimuthAdjustInterval c'.elevationAdjustInterval,
    c'.azimuthAdjust i = data.int16At (o + 2 + 2 * i)
  elevationAdjust : ∀ i < len c'.azimuthAdjustInterval c'.elevationAdjustInterval,
    c'.elevationAdjust i =
      data.int16At (o + 2 + 2 * len c'.azimuthAdjustInterval c'.elevationAdjustInterval + 2 * i)
  header : c'.header = c.header
  minVersion : c'.minVersion = c.minVersion
  turnNumberPerFrame : c'.turnNumberPerFrame = c.turnNumberPerFrame

lemma ETCorrections.adjusted_of_copy (h : c.copyAdjust data o len = some c') : Adjusted data o len c c' := by
  have hpos {b : UInt8} (hb : b ≠ 0) : 0 < b.toNat := Nat.pos_of_ne_zero fun h0 => hb (UInt8.toNat_inj.mp h0)
  rw [copyAdjust] at h
  split_ifs at h with hzero
  obtain ⟨hazi, hele⟩ := not_or.mp hzero
  obtain rfl := Option.some.inj h
  constructor
  case azimuthInterval => exact hpos hazi
  case elevationInterval => exact hpos hele
  case azimuthAdjust =>
    intro i hi
    dsimp only at hi ⊢
    rw [setFirst_of_lt hi]
  case elevationAdjust =>
    intro i hi
    dsimp only at hi ⊢
    rw [setFirst_of_lt hi]
  case header => rfl
  case minVersion => rfl
  case turnNumberPerFrame => rfl

lemma ETCorrections.exists_copyAdjust (hazi : data o ≠ 0) (hele : data (o + 1) ≠ 0) :
    ∃ c', c.copyAdjust data o len = some c' ∧ c'.azimuthAdjustInterval = data o ∧
      c'.elevationAdjustInterval = data (o + 1) := by
  rw [copyAdjust, if_neg (not_or.mpr ⟨hazi, hele⟩)]
  exact ⟨_, rfl, rfl, rfl⟩

lemma Udp25Parser.exists_load_version2 (hdelimited : data.isDelimited = true) (hversion : data.version = 2)
    (hrefused : (ETCorrectionsHeader.readV1V2 data).refused = false)
    (hazi : data (ETCorrectionsHeader.sizeofV1V2 + 4 * (data 6).toNat) ≠ 0)
    (hele : data (ETCorrectionsHeader.sizeofV1V2 + 4 * (data 6).toNat + 1) ≠ 0) :
    ∃ q, loadCorrectionDatData data p = some (q, 0) ∧
      q.corrections.azimuthAdjustInterval = data (ETCorrectionsHeader.sizeofV1V2 + 4 * (data 6).toNat) ∧
      q.corrections.elevationAdjustInterval = data (ETCorrectionsHeader.sizeofV1V2 + 4 * (data 6).toNat + 1) := by
  have hstored : (storeHeader (ETCorrectionsHeader.readV1V2 data) p.corrections).header =
    ETCorrectionsHeader.readV1V2 data := rfl
  have hchannels : (ETCorrectionsHeader.readV1V2 data).channelNumber = (data 6).toNat := rfl
  obtain ⟨c, hcopy, hcazi, hcele⟩ := @ETCorrections.exists_copyAdjust (ETCorrections.copyChannels data
    ETCorrectionsHeader.sizeofV1V2 (storeHeader (ETCorrectionsHeader.readV1V2 data) p.corrections) 3) data _
    ETCorrections.angleOffsetLenV2 hazi hele
  refine ⟨{ p with getCorrectionFile := true, corrections := c }, ?_, hcazi, hcele⟩
  rw [loadCorrectionDatData, if_pos hdelimited, hversion, if_neg (by decide), if_pos rfl]
  dsimp only
  rw [EtParser.commit, hstored, hrefused, if_neg (by decide), ETCorrections.copyVersion2, hstored, hchannels, hcopy,
    Option.map_some]

end Loaded

def adjustCapacity : ℕ := 3000

def EtAccess.AdjustBelow (n : ℤ) : EtAccess → Prop
  | .adjust _ index => 0 ≤ index ∧ index < n
  | _ => True

section Version2

/-- The end of the intervals that stand before the tables of versions 2 and 3. -/
def adjustTableOffset (data : CorrectionData) (c : ETCorrections) : ℕ :=
  (if data.version = 2 then ETCorrectionsHeader.sizeofV1V2 else ETCorrectionsHeader.sizeofHeader) +
    4 * c.header.channelNumber + 2

/-- The loader and the adjust functions agree on the grid, of which `len` entries a table are copied. -/
structure GridAgrees (data : CorrectionData) (c : ETCorrections) (len : ℕ) : Prop where
  copied : ∀ i < len, c.azimuthAdjust i = data.int16At (adjustTableOffset data c + 2 * i)
  capacity : len ≤ adjustCapacity
  gridSize : (len : ℤ) = c.azimuthOffsetNum id ETCorrections.resolutionV2 *
    c.elevationOffsetNum id ETCorrections.elevationFovV2 ETCorrections.resolutionV2
  elevationTable : ∀ i < len, c.elevationAdjust i = data.int16At (adjustTableOffset data c +
    2 * (c.azimuthOffsetNum id ETCorrections.resolutionV2 *
      c.elevationOffsetNum id ETCorrections.elevationFovV2 ETCorrections.resolutionV2).toNat + 2 * i)
  lookups : ∀ azi ele, AllLog (EtAccess.AdjustBelow len) (c.getAziAdjustV2 id azi ele) ∧
    AllLog (EtAccess.AdjustBelow len) (c.getEleAdjustV2 id azi ele)

/-- The grid of the intervals has at most 3000 entries, and cutting off its product loses what cutting off the factors
does. -/
def GridFits (azimuthInterval elevationInterval : ℕ) : Prop :=
  (5 ≤ elevationInterval ∨ 3 ≤ elevationInterval ∧ 2 ≤ azimuthInterval ∨
    elevationInterval = 2 ∧ 3 ≤ azimuthInterval ∨ elevationInterval = 1 ∧ 5 ≤ azimuthInterval) ∧
  (240 / azimuthInterval + 1) * (50 % elevationInterval) * azimuthInterval +
    (50 / elevationInterval + 1) * (240 % azimuthInterval) * elevationInterval +
    240 % azimuthInterval * (50 % elevationInterval) < azimuthInterval * elevationInterval

instance (azimuthInterval elevationInterval : ℕ) : Decidable (GridFits azimuthInterval elevationInterval) :=
  inferInstanceAs (Decidable (_ ∧ _))

lemma grid_le_capacity {h v : ℕ} (hh : 0 < h) (hv : 0 < v) : (240 / h + 1) * (50 / v + 1) ≤ adjustCapacity ↔
    5 ≤ v ∨ 3 ≤ v ∧ 2 ≤ h ∨ v = 2 ∧ 3 ≤ h ∨ v = 1 ∧ 5 ≤ h := by
  have hazi {n : ℕ} (hn : 0 < n) (hle : n ≤ h) : 240 / h + 1 ≤ 240 / n + 1 :=
    Nat.succ_le_succ (Nat.div_le_div_left hle hn)
  have hele {n : ℕ} (hn : 0 < n) (hle : n ≤ v) : 50 / v + 1 ≤ 50 / n + 1 :=
    Nat.succ_le_succ (Nat.div_le_div_left hle hn)
  constructor
  · intro hle
    by_contra hsmall
    have hv5 : v < 5 := by omega
    interval_cases v
    · have hh5 : h < 5 := by omega
      interval_cases h <;> simp [adjustCapacity] at hle
    · have hh3 : h < 3 := by omega
      interval_cases h <;> simp [adjustCapacity] at hle
    · have hh2 : h < 2 := by omega
      interval_cases h
      simp [adjustCapacity] at hle
    · have hh2 : h < 2 := by omega
      interval_cases h
      simp [adjustCapacity] at hle
  · rintro (h5 | ⟨h3, h2⟩ | ⟨rfl, h3⟩ | ⟨rfl, h5⟩)
    · exact (Nat.mul_le_mul (hazi one_pos hh) (hele (by decide) h5)).trans (by decide)
    · exact (Nat.mul_le_mul (hazi (by decide) h2) (hele (by decide) h3)).trans (by decide)
    · exact (Nat.mul_le_mul (hazi (by decide) h3) le_rfl).trans (by decide)
    · exact (Nat.mul_le_mul (hazi (by decide) h5) le_rfl).trans (by decide)

structure LoadedGrid (data : CorrectionData) (c : ETCorrections) : Prop where
  azimuthInterval : 0 < c.azimuthAdjustInterval.toNat
  elevationInterval : 0 < c.elevationAdjustInterval.toNat
  azimuthAdjust : ∀ i < ETCorrections.angleOffsetLenV2 c.azimuthAdjustInterval c.elevationAdjustInterval,
    c.azimuthAdjust i = data.int16At (adjustTableOffset data c + 2 * i)
  elevationAdjust : ∀ i < ETCorrections.angleOffsetLenV2 c.azimuthAdjustInterval c.elevationAdjustInterval,
    c.elevationAdjust i = data.int16At (adjustTableOffset data c +
      2 * ETCorrections.angleOffsetLenV2 c.azimuthAdjustInterval c.elevationAdjustInterval + 2 * i)

lemma loadedGrid_of_copy {data : CorrectionData} {stored c : ETCorrections} {sizeofHeader : ℕ}
    (hsize : sizeofHeader =
      if data.version = 2 then ETCorrectionsHeader.sizeofV1V2 else ETCorrectionsHeader.sizeofHeader)
    (hcopy : stored.copyVersion2 data sizeofHeader = some c) : LoadedGrid data c := by
  have hadjusted := ETCorrections.adjusted_of_copy hcopy
  have hoffset : adjustTableOffset data c = sizeofHeader + 4 * stored.header.channelNumber + 2 := by
    rw [adjustTableOffset, ← hsize, hadjusted.header, ETCorrections.copyChannels]
  refine ⟨hadjusted.azimuthInterval, hadjusted.elevationInterval, ?_, ?_⟩
  · rw [hoffset]
    exact hadjusted.azimuthAdjust
  · rw [hoffset]
    exact hadjusted.elevationAdjust

lemma Udp25Parser.loadedGrid {data : CorrectionData} {p q : EtParser ETCorrections}
    (hload : loadCorrectionDatData data p = some (q, 0)) (hversion : data.version = 2 ∨ data.version = 3) :
    LoadedGrid data q.corrections := by
  rw [loadCorrectionDatData] at hload
  by_cases hdelimited : data.isDelimited = true
  · rw [if_pos hdelimited] at hload
    rcases hversion with h2 | h3
    · rw [h2, if_neg (by decide), if_pos rfl] at hload
      obtain ⟨-, c, hcopy, rfl⟩ := EtParser.commit_eq_zero hload
      exact loadedGrid_of_copy (by rw [if_pos h2]) hcopy
    · rw [h3, if_neg (by decide), if_neg (by decide), if_pos rfl] at hload
      obtain ⟨-, c, hcopy, rfl⟩ := EtParser.commit_eq_zero hload
      exact loadedGrid_of_copy (by rw [h3, if_neg (by decide)]) hcopy
  · rw [if_neg hdelimited] at hload
    simp at hload

lemma grid_index_lt {o1 o2 n1 n2 i j : ℤ} (h1 : 0 ≤ o1 ∧ o1 < n1 - 1) (h2 : 0 ≤ o2 ∧ o2 < n2 - 1)
    (hi : i ∈ [0, 1]) (hj : j ∈ [0, 1]) : 0 ≤ o1 + (o2 + j) * n1 + i ∧ o1 + (o2 + j) * n1 + i < n1 * n2 := by
  have hij : (i = 0 ∨ i = 1) ∧ (j = 0 ∨ j = 1) := by simpa using And.intro hi hj
  have hrow : (o2 + j) * n1 ≤ (n2 - 1) * n1 := mul_le_mul_of_nonneg_right (by omega) (by omega)
  have hnonneg : 0 ≤ (o2 + j) * n1 := mul_nonneg (by omega) (by omega)
  rw [sub_mul, one_mul, mul_comm n2] at hrow
  omega

lemma lookups_of_gridSize {c : ETCorrections} {len : ℕ} (hsize : (len : ℤ) =
    c.azimuthOffsetNum id ETCorrections.resolutionV2 *
      c.elevationOffsetNum id ETCorrections.elevationFovV2 ETCorrections.resolutionV2) (table : EtTable) (azi ele : ℚ) :
    AllLog (EtAccess.AdjustBelow len)
      (c.adjust id ETCorrections.elevationFovV2 ETCorrections.resolutionV2 table azi ele 0) := by
  rw [ETCorrections.allLog_adjust]
  intro h1 h2 i hi j hj
  have hindex := grid_index_lt h1 h2 hi hj
  rw [EtAccess.AdjustBelow, mul_zero, add_zero, hsize]
  exact hindex

lemma gridAgrees_iff {data : CorrectionData} {c : ETCorrections} (hg : LoadedGrid data c) :
    GridAgrees data c (ETCorrections.angleOffsetLenV2 c.azimuthAdjustInterval c.elevationAdjustInterval) ↔
      GridFits c.azimuthAdjustInterval.toNat c.elevationAdjustInterval.toNat := by
  obtain ⟨hh, hv, hazi, hele⟩ := hg
  have hlen := ETCorrections.angleOffsetLenV2_eq hh hv
  have hproduct := quotient_product_iff (a := 240) (b := 50) hh hv
  have hcapacity := grid_le_capacity hh hv
  rw [← hlen] at hproduct
  have hgrid : c.azimuthOffsetNum id ETCorrections.resolutionV2 *
      c.elevationOffsetNum id ETCorrections.elevationFovV2 ETCorrections.resolutionV2 =
      ((240 / c.azimuthAdjustInterval.toNat + 1) * (50 / c.elevationAdjustInterval.toNat + 1) : ℕ) := by
    rw [ETCorrections.azimuthOffsetNum_V2 hh, ETCorrections.elevationOffsetNum_V2 hv, Nat.cast_mul]
  generalize ETCorrections.angleOffsetLenV2 c.azimuthAdjustInterval c.elevationAdjustInterval = len at *
  rw [GridFits, ← hproduct, ← hcapacity]
  constructor
  · intro hagrees
    have hsize := hagrees.gridSize
    rw [hgrid, Nat.cast_inj] at hsize
    exact ⟨hsize ▸ hagrees.capacity, hsize⟩
  · rintro ⟨hle, hsize⟩
    have hcast := congrArg (Nat.cast : ℕ → ℤ) hsize
    rw [← hgrid] at hcast
    constructor
    case copied => exact hazi
    case capacity => rwa [hsize]
    case gridSize => exact hcast
    case elevationTable =>
      rw [← hcast, Int.toNat_natCast]
      exact hele
    case lookups => exact fun azi ele => ⟨lookups_of_gridSize hcast _ _ _, lookups_of_gridSize hcast _ _ _⟩

end Version2

/-- Exactly then the number of entries that are copied is the size of the grid that is looked up, and fits. -/
theorem adjustGrid_iff (data : CorrectionData) (p q : EtParser ETCorrections)
    (hload : Udp25Parser.loadCorrectionDatData data p = some (q, 0))
    (hversion : data.version = 2 ∨ data.version = 3) :
    GridAgrees data q.corrections (ETCorrections.angleOffsetLenV2 q.corrections.azimuthAdjustInterval
        q.corrections.elevationAdjustInterval) ↔
      GridFits q.corrections.azimuthAdjustInterval.toNat q.corrections.elevationAdjustInterval.toNat :=
  gridAgrees_iff (Udp25Parser.loadedGrid hload hversion)

section Files

variable (azimuthInterval elevationInterval : UInt8)

def gridFile : CorrectionData :=
  fun o => [0xEE, 0xFF, 0, 2, 0, 0, 0, 0, 1, 0, 0, 0, 0, 0, 0, 0, azimuthInterval, elevationInterval].getD o 0

def gridParser : EtParser ETCorrections :=
  ((Udp25Parser.loadCorrectionDatData (gridFile azimuthInterval elevationInterval) default).getD default).1

variable {azimuthInterval elevationInterval}

lemma gridFile_loaded (hazi : azimuthInterval ≠ 0) (hele : elevationInterval ≠ 0) :
    Udp25Parser.loadCorrectionDatData (gridFile azimuthInterval elevationInterval) default =
        some (gridParser azimuthInterval elevationInterval, 0) ∧
      (gridParser azimuthInterval elevationInterval).corrections.azimuthAdjustInterval = azimuthInterval ∧
      (gridParser azimuthInterval elevationInterval).corrections.elevationAdjustInterval = elevationInterval := by
  have hdivision : (gridFile azimuthInterval elevationInterval).uint16At 8 = 1 := rfl
  have hrefused : (ETCorrectionsHeader.readV1V2 (gridFile azimuthInterval elevationInterval)).refused = false := by
    rw [ETCorrectionsHeader.readV1V2, hdivision]
    rfl
  obtain ⟨q, hload, hqazi, hqele⟩ := @Udp25Parser.exists_load_version2 default
    (gridFile azimuthInterval elevationInterval) rfl rfl hrefused hazi hele
  rw [gridParser, hload]
  exact ⟨rfl, hqazi, hqele⟩

end Files

lemma gridFits_loaded {azimuthInterval elevationInterval : UInt8} (hazi : azimuthInterval ≠ 0)
    (hele : elevationInterval ≠ 0) :
    GridFits (gridParser azimuthInterval elevationInterval).corrections.azimuthAdjustInterval.toNat
        (gridParser azimuthInterval elevationInterval).corrections.elevationAdjustInterval.toNat ↔
      GridFits azimuthInterval.toNat elevationInterval.toNat := by
  obtain ⟨-, hqazi, hqele⟩ := gridFile_loaded hazi hele
  rw [hqazi, hqele]

theorem adjustGrid_divided : GridAgrees (gridFile 2 10) (gridParser 2 10).corrections
    (ETCorrections.angleOffsetLenV2 (gridParser 2 10).corrections.azimuthAdjustInterval
      (gridParser 2 10).corrections.elevationAdjustInterval) :=
  (adjustGrid_iff _ default _ (gridFile_loaded (by decide) (by decide)).1 (Or.inl rfl)).mpr
    ((gridFits_loaded (by decide) (by decide)).mpr (by decide))

/-- With intervals of half a degree 12291 entries are copied into tables of 3000. -/
theorem adjustGrid_overflow : ¬∀ (data : CorrectionData) (p q : EtParser ETCorrections),
    Udp25Parser.loadCorrectionDatData data p = some (q, 0) → data.version = 2 ∨ data.version = 3 →
      GridAgrees data q.corrections (ETCorrections.angleOffsetLenV2 q.corrections.azimuthAdjustInterval
        q.corrections.elevationAdjustInterval) := by
  intro h
  have hload := (@gridFile_loaded 1 1 (by decide) (by decide)).1
  have hagrees := h (gridFile 1 1) default (gridParser 1 1) hload (Or.inl rfl)
  have hfits := (gridAgrees_iff (Udp25Parser.loadedGrid hload (Or.inl rfl))).mp hagrees
  exact absurd ((gridFits_loaded (by decide) (by decide)).mp hfits) (by decide)

end HesaiSdk.Parsing
