import HesaiSdk.Library.Circle
import HesaiSdk.UdpParser.GeneralParser
import Mathlib.Tactic.FieldSimp
import Mathlib.Tactic.Linarith

/-! The copies of `IsNeedFrameSplit` in the mechanical parsers, and the frame split against the circle. -/

namespace HesaiSdk.Parsing

open Library Library.Circle Library.FloatRounding Lidar UdpProtocol

namespace GeneralParser

variable {p q : GeneralParser} {azimuth : UInt16} {s : ℕ} {x y z : ℤ}

section Copies

/-- In three parsers the cast of the last comparison of the reverse branch is closed around it. -/
def crossesStartUncast (p : GeneralParser) (azimuth division : ℤ) : Bool :=
  if p.rotationFlag = 1 then
    if division < p.lastAzimuth - azimuth then
      decide (p.lastAzimuth < p.startAzimuth ∨ p.startProduct ≤ azimuth)
    else decide (p.lastAzimuth < azimuth ∧ p.lastAzimuth < p.startAzimuth ∧ p.startAzimuth ≤ azimuth)
  else
    if division < azimuth - p.lastAzimuth then
      decide (p.startAzimuth ≤ p.lastAzimuth ∨ azimuth < p.startProduct)
    else decide (azimuth < p.lastAzimuth ∧ p.startAzimuth < p.lastAzimuth ∧ azimuth ≤ p.startAzimuth)

def isNeedFrameSplitUncast (u16Azimuth : UInt16) (p : GeneralParser) : GeneralParser × Bool :=
  let azimuth : ℤ := u16Azimuth.toNat
  let p := p.normalizeFrameStart
  if p.lastLastAzimuth = -1 then (p, false)
  else
    let division := p.division azimuth
    if division = 0 then (p, false)
    else
      let p := { p with rotationFlag :=
        if p.lastLastAzimuth - p.lastAzimuth = division ∨ p.lastAzimuth - azimuth = division then -1 else 1 }
      (p, p.crossesStartUncast azimuth division)

/-- The three azimuths fall and then rise by no less, onto the whole hundredth below the start azimuth. -/
def Parted (azimuth : ℤ) (p : GeneralParser) : Prop :=
  p.lastLastAzimuth ≠ -1 ∧ p.lastAzimuth < p.lastLastAzimuth ∧ p.lastLastAzimuth < azimuth ∧
    p.lastLastAzimuth - p.lastAzimuth ≤ (azimuth - p.lastAzimuth) % 65536 ∧ p.startAzimuth = azimuth ∧
    azimuth < p.startProduct

instance (azimuth : ℤ) (p : GeneralParser) : Decidable (p.Parted azimuth) := inferInstanceAs (Decidable (_ ∧ _))

lemma startAzimuth_eq_floor (h0 : 0 ≤ p.frameStartAzimuth) (h360 : p.frameStartAzimuth < 360) :
    p.startAzimuth = ⌊p.startProduct⌋ := by
  have hk : (kResolutionInt : ℚ) = 100 := rfl
  have hmul : 0 ≤ p.frameStartAzimuth * kResolutionInt := by
    rw [hk]
    linarith
  have hproduct : 0 ≤ p.startProduct := roundFloat_nonneg hmul
  have hround : p.startProduct ≤ _ := roundFloat_le hmul
  have hlow : 0 ≤ ⌊p.startProduct⌋ := Int.floor_nonneg.mpr hproduct
  have hhigh : ⌊p.startProduct⌋ < 65536 := by
    rw [Int.floor_lt]
    rw [hk] at hround
    push_cast
    linarith
  rw [startAzimuth, truncate, if_pos hproduct]
  omega

lemma lt_startProduct_iff (h0 : 0 ≤ p.frameStartAzimuth) (h360 : p.frameStartAzimuth < 360) (z : ℤ) :
    (z : ℚ) < p.startProduct ↔ z < p.startAzimuth ∨ p.startAzimuth = z ∧ (z : ℚ) < p.startProduct := by
  rw [startAzimuth_eq_floor h0 h360]
  constructor
  · intro h
    rcases lt_or_eq_of_le (Int.le_floor.mpr h.le) with hlt | heq
    · exact Or.inl hlt
    · exact Or.inr ⟨heq.symm, h⟩
  · rintro (hlt | ⟨-, h⟩)
    · exact lt_of_lt_of_le (by exact_mod_cast hlt) (Int.floor_le _)
    · exact h

lemma normalizeFrameStart_range : 0 ≤ p.normalizeFrameStart.frameStartAzimuth ∧
    p.normalizeFrameStart.frameStartAzimuth < 360 := by
  rw [normalizeFrameStart]
  split_ifs with h
  · exact ⟨le_rfl, show (0 : ℚ) < 360 by norm_num⟩
  · exact ⟨not_lt.mp (not_or.mp h).1, not_le.mp (not_or.mp h).2⟩

lemma parted_iff (z : ℤ) (hne : p.lastLastAzimuth ≠ -1) : p.Parted z ↔ p.division z ≠ 0 ∧
    (p.lastLastAzimuth - p.lastAzimuth = p.division z ∨ p.lastAzimuth - z = p.division z) ∧
    p.division z < z - p.lastAzimuth ∧ ¬p.startAzimuth ≤ p.lastAzimuth ∧ p.startAzimuth = z ∧
    z < p.startProduct := by
  rw [Parted, and_iff_right hne, division]
  constructor
  · rintro ⟨hfall, hrise, hstep, hstart, hless⟩
    refine ⟨?_, ?_, ?_, by omega, hstart, hless⟩ <;> split_ifs <;> omega
  · rintro ⟨h0, hreverse, hjump, hlast, hstart, hless⟩
    refine ⟨?_, ?_, ?_, hstart, hless⟩ <;> split_ifs at h0 hreverse hjump <;> omega

lemma crossesStartUncast_eq (h0 : 0 ≤ p.frameStartAzimuth) (h360 : p.frameStartAzimuth < 360) (z d : ℤ) :
    p.crossesStartUncast z d = (p.crossesStart z d || decide (p.rotationFlag ≠ 1 ∧ d < z - p.lastAzimuth ∧
      ¬p.startAzimuth ≤ p.lastAzimuth ∧ p.startAzimuth = z ∧ z < p.startProduct)) := by
  rw [crossesStartUncast, crossesStart]
  by_cases hr : p.rotationFlag = 1
  · simp only [hr, ne_eq, not_true_eq_false, false_and, decide_false, Bool.or_false, if_true]
  rw [if_neg hr, if_neg hr]
  by_cases hj : d < z - p.lastAzimuth
  · rw [if_pos hj, if_pos hj, ← Bool.decide_or]
    apply decide_eq_decide.mpr
    have hlt := lt_startProduct_iff h0 h360 z
    constructor
    · rintro (hlast | hless)
      · exact Or.inl (Or.inl hlast)
      · rcases hlt.mp hless with hz | ⟨hz, -⟩
        · exact Or.inl (Or.inr hz)
        · by_cases hlast : p.startAzimuth ≤ p.lastAzimuth
          · exact Or.inl (Or.inl hlast)
          · exact Or.inr ⟨hr, hj, hlast, hz, hless⟩
    · rintro ((hlast | hz) | h)
      · exact Or.inl hlast
      · exact Or.inr (hlt.mpr (Or.inl hz))
      · exact Or.inr h.2.2.2.2
  · simp only [hj, false_and, and_false, decide_false, Bool.or_false, if_false]

lemma isNeedFrameSplitUncast_eq (azimuth : UInt16) (p : GeneralParser) : p.isNeedFrameSplitUncast azimuth =
    ((p.isNeedFrameSplit azimuth).1,
      (p.isNeedFrameSplit azimuth).2 || decide (p.normalizeFrameStart.Parted azimuth.toNat)) := by
  obtain ⟨h0, h360⟩ := normalizeFrameStart_range (p := p)
  simp only [isNeedFrameSplitUncast, isNeedFrameSplit]
  generalize p.normalizeFrameStart = p at h0 h360 ⊢
  by_cases hne : p.lastLastAzimuth = -1
  · have hnot : ¬p.Parted azimuth.toNat := fun h => h.1 hne
    rw [if_pos hne, if_pos hne, decide_eq_false hnot]
    rfl
  have hparted := parted_iff azimuth.toNat hne
  rw [if_neg hne, if_neg hne]
  by_cases hd : p.division azimuth.toNat = 0
  · rw [if_pos hd, if_pos hd, decide_eq_false fun h => (hparted.mp h).1 hd]
    rfl
  rw [if_neg hd, if_neg hd]
  generalize hflag : (if p.lastLastAzimuth - p.lastAzimuth = p.division azimuth.toNat ∨
    p.lastAzimuth - azimuth.toNat = p.division azimuth.toNat then (-1 : ℤ) else 1) = r
  have hr : r ≠ 1 ↔ p.lastLastAzimuth - p.lastAzimuth = p.division azimuth.toNat ∨
      p.lastAzimuth - azimuth.toNat = p.division azimuth.toNat := by
    rw [← hflag]
    split_ifs with hreverse
    · exact iff_of_true (by decide) hreverse
    · exact iff_of_false (fun h => h rfl) hreverse
  have hcross := crossesStartUncast_eq (p := { p with rotationFlag := r }) h0 h360 azimuth.toNat
    (p.division azimuth.toNat)
  refine Prod.ext rfl (hcross.trans (congrArg _ (decide_eq_decide.mpr ?_)))
  rw [hparted, and_iff_right hd, ← hr]
  rfl

lemma isNeedFrameSplit_of_parted (h : p.normalizeFrameStart.Parted azimuth.toNat) :
    (p.isNeedFrameSplit azimuth).2 = false := by
  have hne := h.1
  simp only [isNeedFrameSplit]
  generalize p.normalizeFrameStart = p at h hne ⊢
  obtain ⟨hd, hr, hj, hlast, hstart, -⟩ := (parted_iff _ hne).mp h
  rw [if_neg hne, if_neg hd, if_pos hr]
  simp only [crossesStart]
  rw [if_neg (by decide), if_pos hj]
  exact decide_eq_false fun hor => hor.elim hlast hstart.not_gt

lemma isNeedFrameSplitUncast_eq_iff (azimuth : UInt16) (p : GeneralParser) :
    p.isNeedFrameSplitUncast azimuth = p.isNeedFrameSplit azimuth ↔
      ¬p.normalizeFrameStart.Parted azimuth.toNat := by
  rw [isNeedFrameSplitUncast_eq]
  constructor
  · intro heq hp
    have hsnd := congrArg Prod.snd heq
    rw [isNeedFrameSplit_of_parted hp, decide_eq_true hp] at hsnd
    exact Bool.noConfusion hsnd
  · intro hp
    rw [decide_eq_false hp, Bool.or_false]

end Copies

lemma isNeedFrameSplit_lasts : (p.isNeedFrameSplit azimuth).1.splitState.2 = p.splitState.2 := by
  obtain ⟨_, _, h⟩ := p.isNeedFrameSplit_frame azimuth
  rw [h]
  rfl

lemma isNeedFrameSplit_start : (p.isNeedFrameSplit azimuth).1.frameStartAzimuth =
    p.normalizeFrameStart.frameStartAzimuth := by
  simp only [isNeedFrameSplit]
  split_ifs <;> rfl

section Turning

variable {need : UInt16 → GeneralParser → GeneralParser × Bool}

def IsCopy (need : UInt16 → GeneralParser → GeneralParser × Bool) : Prop :=
  need = isNeedFrameSplit ∨ need = isNeedFrameSplitUncast

lemma isCopy_self : IsCopy isNeedFrameSplit := Or.inl rfl

lemma isCopy_uncast : IsCopy isNeedFrameSplitUncast := Or.inr rfl

def turnTo (need : UInt16 → GeneralParser → GeneralParser × Bool) (azimuth : UInt16) (p : GeneralParser) :
    GeneralParser × Bool :=
  ((need azimuth p).1.noteAzimuth azimuth, (need azimuth p).2)

lemma IsCopy.fst_eq (hc : IsCopy need) : (need azimuth p).1 = (p.isNeedFrameSplit azimuth).1 := by
  rcases hc with rfl | rfl
  · rfl
  · rw [isNeedFrameSplitUncast_eq]

lemma IsCopy.snd_eq (hc : IsCopy need) (hp : ¬p.normalizeFrameStart.Parted azimuth.toNat) :
    (need azimuth p).2 = (p.isNeedFrameSplit azimuth).2 := by
  rcases hc with rfl | rfl
  · rfl
  · rw [isNeedFrameSplitUncast_eq, decide_eq_false hp, Bool.or_false]

lemma normalizeFrameStart_congr (h : p.splitState = q.splitState) :
    p.normalizeFrameStart.splitState = q.normalizeFrameStart.splitState := by
  simp only [splitState, Prod.mk.injEq] at h
  rw [normalizeFrameStart_splitState, normalizeFrameStart_splitState, h.1, h.2.1, h.2.2]

lemma parted_congr (h : p.splitState = q.splitState) : p.Parted z ↔ q.Parted z := by
  simp only [splitState, Prod.mk.injEq] at h
  rw [Parted, Parted, startAzimuth, startAzimuth, startProduct, startProduct, h.1, h.2.1, h.2.2]

lemma turnTo_congr (hc : IsCopy need) (azimuth : UInt16) (h : p.splitState = q.splitState) :
    (p.turnTo need azimuth).2 = (q.turnTo need azimuth).2 ∧
      (p.turnTo need azimuth).1.splitState = (q.turnTo need azimuth).1.splitState := by
  have hn := normalizeFrameStart_congr h
  have hsame : (p.isNeedFrameSplit azimuth).1.splitState = (q.isNeedFrameSplit azimuth).1.splitState := by
    refine Prod.ext ?_ (isNeedFrameSplit_lasts.trans ((congrArg _ h).trans isNeedFrameSplit_lasts.symm))
    exact isNeedFrameSplit_start.trans ((congrArg Prod.fst hn).trans isNeedFrameSplit_start.symm)
  refine ⟨?_, ?_⟩
  · rw [turnTo, turnTo]
    rcases hc with rfl | rfl
    · exact isNeedFrameSplit_congr azimuth h
    · rw [isNeedFrameSplitUncast_eq, isNeedFrameSplitUncast_eq, isNeedFrameSplit_congr azimuth h]
      exact congrArg ((q.isNeedFrameSplit azimuth).2 || ·) (decide_eq_decide.mpr (parted_congr hn))
  · rw [turnTo, turnTo, hc.fst_eq, hc.fst_eq, noteAzimuth_splitState, noteAzimuth_splitState, hsame]
    simp only [splitState, Prod.mk.injEq] at hsame
    rw [hsame.1, hsame.2.2]

section Hundredths

lemma abs_roundFloat_hundredths (s : ℕ) : |roundFloat (s / 100) - s / 100| ≤ s / 100 / 2 ^ 24 := by
  rcases Nat.eq_zero_or_pos s with rfl | hs
  · rw [Nat.cast_zero, zero_div, roundFloat_zero]
    simp
  · have hone : (1 : ℚ) ≤ s := by exact_mod_cast hs
    have habs : |(s : ℚ) / 100| = s / 100 := abs_of_nonneg (by positivity)
    have hnormal : (2 : ℚ) ^ (-126 : ℤ) ≤ 1 / 100 := by norm_num
    have herror := abs_roundFloat_sub_le_of_normal (q := (s : ℚ) / 100) (by rw [habs]; linarith)
    rwa [habs] at herror

/-- The start azimuth is the `float` next to `s` hundredths of a degree. -/
structure At (s : ℕ) (x y : ℤ) (p : GeneralParser) : Prop where
  start : p.frameStartAzimuth = roundFloat (s / 100)
  lastLast : p.lastLastAzimuth = x
  last : p.lastAzimuth = y

lemma At.range (h : At s x y p) (hs : s < 36000) : 0 ≤ p.frameStartAzimuth ∧ p.frameStartAzimuth < 360 := by
  have hlt : (s : ℚ) ≤ 35999 := by exact_mod_cast Nat.le_of_lt_succ hs
  have h0 : (0 : ℚ) ≤ s := Nat.cast_nonneg s
  have herror := (abs_le.mp (abs_roundFloat_hundredths s)).2
  rw [h.start]
  exact ⟨roundFloat_nonneg (by positivity), by linarith⟩

lemma At.normalize (h : At s x y p) (hs : s < 36000) : p.normalizeFrameStart = p := by
  rw [normalizeFrameStart, if_neg]
  exact not_or.mpr ⟨not_lt.mpr (h.range hs).1, not_le.mpr (h.range hs).2⟩

lemma At.startProduct_near (h : At s x y p) (hs : s < 36000) : |p.startProduct - s| < 1 := by
  have hlt : (s : ℚ) < 36000 := by exact_mod_cast hs
  have h0 : (0 : ℚ) ≤ s := Nat.cast_nonneg s
  have hk : (kResolutionInt : ℚ) = 100 := rfl
  obtain ⟨hlow, hhigh⟩ := abs_le.mp (abs_roundFloat_hundredths s)
  rw [startProduct, h.start, hk]
  rcases Nat.eq_zero_or_pos s with rfl | hpos
  · rw [Nat.cast_zero, zero_div, roundFloat_zero, zero_mul, roundFloat_zero]
    simp
  · have hone : (1 : ℚ) ≤ s := by exact_mod_cast hpos
    have habs : |roundFloat (s / 100) * 100| = roundFloat (s / 100) * 100 := abs_of_nonneg (by linarith)
    have hnormal : (2 : ℚ) ^ (-126 : ℤ) ≤ 1 / 2 := by norm_num
    have herror := abs_roundFloat_sub_le_of_normal (q := roundFloat (s / 100) * 100) (by rw [habs]; linarith)
    rw [habs] at herror
    obtain ⟨hlow', hhigh'⟩ := abs_le.mp herror
    rw [abs_lt]
    constructor <;> linarith

/-- Where the product is rounded below `s`, it is cut off to the hundredth before. -/
lemma At.startAzimuth_eq (h : At s x y p) (hs : s < 36000) :
    p.startAzimuth = if p.startProduct < s then (s : ℤ) - 1 else s := by
  obtain ⟨hlow, hhigh⟩ := abs_lt.mp (h.startProduct_near hs)
  rw [startAzimuth_eq_floor (h.range hs).1 (h.range hs).2, Int.floor_eq_iff]
  split_ifs with hless
  · push_cast
    constructor <;> linarith
  · push_cast
    constructor <;> linarith

lemma At.startProduct_le_iff (h : At s x y p) (hs : s < 36000) (z : ℤ) :
    p.startProduct ≤ z ↔ s < z ∨ s = z ∧ ¬(s : ℚ) < p.startProduct := by
  obtain ⟨hlow, hhigh⟩ := abs_lt.mp (h.startProduct_near hs)
  rcases lt_trichotomy (s : ℤ) z with hlt | rfl | hgt
  · have hle : ((s : ℤ) : ℚ) + 1 ≤ z := by exact_mod_cast hlt
    push_cast at hle
    exact iff_of_true (by linarith) (Or.inl hlt)
  · rw [Int.cast_natCast, not_lt]
    simp
  · have hle : (z : ℚ) + 1 ≤ (s : ℤ) := by exact_mod_cast hgt
    push_cast at hle
    refine iff_of_false (not_le.mpr (by linarith)) ?_
    omega

def lesserStep (x y z : ℤ) : ℤ := min ((y - x).natAbs : ℤ) (y - z).natAbs

lemma At.division_eq (h : At s x y p) (hx : 0 ≤ x ∧ x < 36000) (hy : 0 ≤ y ∧ y < 36000) (hz : 0 ≤ z ∧ z < 36000) :
    p.division z = lesserStep x y z := by
  rw [division, h.lastLast, h.last, lesserStep]
  split_ifs <;> omega

lemma At.congr (h : At s x y p) (hq : q.splitState = p.splitState) : At s x y q := by
  simp only [splitState, Prod.mk.injEq] at hq
  exact ⟨hq.1.trans h.start, hq.2.1.trans h.lastLast, hq.2.2.trans h.last⟩

lemma At.startProduct_eq {x' y' : ℤ} (h : At s x y p) (h' : At s x' y' q) : q.startProduct = p.startProduct := by
  rw [startProduct, startProduct, h.start, h'.start]

lemma At.isNeedFrameSplit_iff (h : At s x y p) (hs : s < 36000) (hx : 0 ≤ x ∧ x < 36000) (hy : 0 ≤ y ∧ y < 36000)
    (hz : (azimuth.toNat : ℤ) = z) (hz' : z < 36000) : (p.isNeedFrameSplit azimuth).2 = true ↔
    lesserStep x y z ≠ 0 ∧ if x - y = lesserStep x y z ∨ y - z = lesserStep x y z then
      if lesserStep x y z < z - y then p.startAzimuth ≤ y ∨ z < p.startAzimuth
      else z < y ∧ p.startAzimuth < y ∧ z ≤ p.startAzimuth
    else if lesserStep x y z < y - z then y < p.startAzimuth ∨ p.startProduct ≤ z
      else y < z ∧ y < p.startAzimuth ∧ p.startAzimuth ≤ z := by
  have hz0 : 0 ≤ z := hz ▸ Int.natCast_nonneg _
  have hne : ¬p.lastLastAzimuth = -1 := by
    rw [h.lastLast]
    omega
  have hcross (r d : ℤ) : ({ p with rotationFlag := r } : GeneralParser).crossesStart z d = if r = 1 then
      if d < y - z then decide (y < p.startAzimuth ∨ p.startProduct ≤ z)
      else decide (y < z ∧ y < p.startAzimuth ∧ p.startAzimuth ≤ z)
    else if d < z - y then decide (p.startAzimuth ≤ y ∨ z < p.startAzimuth)
      else decide (z < y ∧ p.startAzimuth < y ∧ z ≤ p.startAzimuth) := by
    rw [crossesStart]
    simp only [h.last]
    rfl
  simp only [isNeedFrameSplit, h.normalize hs, hz, h.division_eq hx hy ⟨hz0, hz'⟩, hcross]
  rw [if_neg hne, h.lastLast, h.last]
  by_cases h0 : lesserStep x y z = 0
  · rw [if_pos h0]
    exact iff_of_false Bool.false_ne_true fun hn => hn.1 h0
  · rw [if_neg h0, and_iff_right h0]
    by_cases hr : x - y = lesserStep x y z ∨ y - z = lesserStep x y z
    · rw [if_pos hr, if_pos hr, if_neg (by decide)]
      split_ifs <;> exact decide_eq_true_iff
    · rw [if_neg hr, if_neg hr, if_pos rfl]
      split_ifs <;> exact decide_eq_true_iff

lemma At.cut_forward (h : At s x y p) (hs : s < 36000) (hx : 0 ≤ x ∧ x < 36000) (hy : 0 ≤ y ∧ y < 36000)
    (hz : (azimuth.toNat : ℤ) = z) (hz' : z < 36000) (hxy : 0 < advance 36000 x y ∧ advance 36000 x y < 18000)
    (hyz : advance 36000 y z < 18000) : (p.isNeedFrameSplit azimuth).2 = true ↔
      if z < y then y < p.startAzimuth ∨ p.startProduct ≤ z else y < p.startAzimuth ∧ p.startAzimuth ≤ z := by
  have hz0 : 0 ≤ z := hz ▸ Int.natCast_nonneg _
  rw [advance_eq_ite hx hy] at hxy
  rw [advance_eq_ite hy ⟨hz0, hz'⟩] at hyz
  rw [h.isNeedFrameSplit_iff hs hx hy hz hz', lesserStep]
  by_cases hwrap : z < y
  · rw [if_neg (not_le.mpr hwrap)] at hyz
    have hturned : ¬(x - y = min ((y - x).natAbs : ℤ) (y - z).natAbs ∨
        y - z = min ((y - x).natAbs : ℤ) (y - z).natAbs) := by
      split_ifs at hxy <;> omega
    have hjump : min ((y - x).natAbs : ℤ) (y - z).natAbs < y - z := by omega
    rw [if_neg hturned, if_pos hjump, if_pos hwrap, and_iff_right]
    split_ifs at hxy <;> omega
  · rw [if_neg hwrap]
    split_ifs at * <;> omega

lemma At.cut_backward (h : At s x y p) (hs : s < 36000) (hx : 0 ≤ x ∧ x < 36000) (hy : 0 ≤ y ∧ y < 36000)
    (hz : (azimuth.toNat : ℤ) = z) (hz' : z < 36000) (hxy : 0 < advance 36000 y x ∧ advance 36000 y x < 18000)
    (hyz : 0 < advance 36000 z y ∧ advance 36000 z y < 18000) : (p.isNeedFrameSplit azimuth).2 = true ↔
      if y < z then p.startAzimuth ≤ y ∨ z < p.startAzimuth else p.startAzimuth < y ∧ z ≤ p.startAzimuth := by
  have hz0 : 0 ≤ z := hz ▸ Int.natCast_nonneg _
  rw [advance_eq_ite hy hx] at hxy
  rw [advance_eq_ite ⟨hz0, hz'⟩ hy] at hyz
  rw [h.isNeedFrameSplit_iff hs hx hy hz hz', lesserStep]
  generalize p.startAzimuth = start
  generalize (p.startProduct ≤ z) = reached
  split_ifs at * <;> omega

/-- A step forward that is cut although it does not pass `s`, or passes `s` and is not cut. Over the end of the circle
the product itself is compared, elsewhere what it is cut off to. -/
def ForwardMisses (product : ℚ) (s y z : ℤ) : Prop :=
  s < product ∧ z < y ∧ z = s ∨ product < s ∧ (y ≠ z ∧ y = s - 1 ∨ y < z ∧ z = s - 1)

instance (product : ℚ) (s y z : ℤ) : Decidable (ForwardMisses product s y z) :=
  inferInstanceAs (Decidable (_ ∨ _))

lemma At.forward (hc : IsCopy need) (h : At s x y p) (hs : s < 36000) (hx : 0 ≤ x ∧ x < 36000)
    (hy : 0 ≤ y ∧ y < 36000)
    (hz : (azimuth.toNat : ℤ) = z) (hz' : z < 36000) (hxy : 0 < advance 36000 x y ∧ advance 36000 x y < 18000)
    (hyz : advance 36000 y z < 18000) :
    ((p.turnTo need azimuth).2 = true ↔ Passes 36000 s y z) ↔ ¬ForwardMisses p.startProduct s y z := by
  have hz0 : 0 ≤ z := hz ▸ Int.natCast_nonneg _
  have hs0 : 0 ≤ (s : ℤ) ∧ (s : ℤ) < 36000 := ⟨Int.natCast_nonneg s, by omega⟩
  have hparted : ¬p.normalizeFrameStart.Parted azimuth.toNat := by
    rw [h.normalize hs, Parted, h.lastLast, h.last, hz]
    rintro ⟨-, hfall, hrise, -⟩
    rw [advance_eq_ite hx hy] at hxy
    rw [advance_eq_ite hy ⟨hz0, hz'⟩] at hyz
    split_ifs at hxy hyz <;> omega
  rw [turnTo, hc.snd_eq hparted, h.cut_forward hs hx hy hz hz' hxy hyz, passes_iff hy hs0 ⟨hz0, hz'⟩, ForwardMisses,
    h.startAzimuth_eq hs, h.startProduct_le_iff hs, Int.cast_natCast]
  rw [advance_eq_ite hy ⟨hz0, hz'⟩] at hyz
  rcases lt_trichotomy p.startProduct s with hless | heq | hgreater
  · simp only [hless, hless.not_gt, if_true, false_and, true_and, false_or, not_false_eq_true, and_true]
    split_ifs at * <;> omega
  · simp only [heq, lt_self_iff_false, if_false, false_and, or_false, not_false_eq_true, and_true, iff_true]
    split_ifs at * <;> omega
  · simp only [hgreater, hgreater.not_gt, if_false, false_and, true_and, or_false, not_true_eq_false, and_false]
    split_ifs at * <;> omega

/-- A step backward of which the cut is not the passage over `s`. The reverse branch takes a step over the end of the
circle that starts or ends at the start azimuth for the other case; three parsers compare the product itself there. -/
def BackwardMisses (uncast : Prop) (product : ℚ) (s y z : ℤ) : Prop :=
  y < z ∧ (s = y ∨ s = z ∧ ¬(uncast ∧ s < product)) ∨
    product < s ∧ (s = y ∨ s = z ∨ y < z ∧ (s - 1 = y ∨ s - 1 = z ∧ ¬uncast))

lemma IsCopy.turnTo_iff (hc : IsCopy need) : (p.turnTo need azimuth).2 = true ↔
    (p.isNeedFrameSplit azimuth).2 = true ∨
      need = isNeedFrameSplitUncast ∧ p.normalizeFrameStart.Parted azimuth.toNat := by
  rw [turnTo]
  by_cases hu : need = isNeedFrameSplitUncast
  · rw [hu, isNeedFrameSplitUncast_eq, Bool.or_eq_true, decide_eq_true_iff, and_iff_right rfl]
  · rw [hc.resolve_right hu]
    exact (or_iff_left fun h => hu ((hc.resolve_right hu).trans h.1)).symm

lemma At.parted_backward (h : At s x y p) (hs : s < 36000) (hx : 0 ≤ x ∧ x < 36000) (hy : 0 ≤ y ∧ y < 36000)
    (hz : 0 ≤ z ∧ z < 36000) (hxy : 0 < advance 36000 y x ∧ advance 36000 y x < 18000)
    (hyz : 0 < advance 36000 z y ∧ advance 36000 z y < 18000) :
    p.normalizeFrameStart.Parted z ↔ y < z ∧ p.startAzimuth = z ∧ z < p.startProduct := by
  rw [advance_eq_ite hy hx] at hxy
  rw [advance_eq_ite hz hy] at hyz
  rw [h.normalize hs, Parted, h.lastLast, h.last]
  generalize p.startAzimuth = start
  constructor
  · rintro ⟨-, hfall, hrise, -, hstart, hless⟩
    exact ⟨by omega, hstart, hless⟩
  · rintro ⟨hwrap, hstart, hless⟩
    refine ⟨by omega, ?_, ?_, ?_, hstart, hless⟩ <;> split_ifs at hxy hyz <;> omega

lemma At.backward (hc : IsCopy need) (h : At s x y p) (hs : s < 36000) (hx : 0 ≤ x ∧ x < 36000)
    (hy : 0 ≤ y ∧ y < 36000)
    (hz : (azimuth.toNat : ℤ) = z) (hz' : z < 36000) (hxy : 0 < advance 36000 y x ∧ advance 36000 y x < 18000)
    (hyz : 0 < advance 36000 z y ∧ advance 36000 z y < 18000) : ((p.turnTo need azimuth).2 = true ↔
      Passes 36000 (-s) (-y) (-z)) ↔ ¬BackwardMisses (need = isNeedFrameSplitUncast) p.startProduct s y z := by
  have hz0 : 0 ≤ z := hz ▸ Int.natCast_nonneg _
  have hs0 : 0 ≤ (s : ℤ) ∧ (s : ℤ) < 36000 := ⟨Int.natCast_nonneg s, by omega⟩
  have hlt : (z : ℚ) < p.startProduct ↔ ¬(s < z ∨ s = z ∧ ¬(s : ℚ) < p.startProduct) := by
    rw [← not_le, h.startProduct_le_iff hs]
  rw [hc.turnTo_iff, h.cut_backward hs hx hy hz hz' hxy hyz, hz, h.parted_backward hs hx hy ⟨hz0, hz'⟩ hxy hyz,
    hlt, passes_neg_iff hy hs0 ⟨hz0, hz'⟩, BackwardMisses, h.startAzimuth_eq hs,
    Int.cast_natCast]
  rw [advance_eq_ite ⟨hz0, hz'⟩ hy] at hyz
  generalize (need = isNeedFrameSplitUncast) = uncast
  rcases lt_trichotomy p.startProduct s with hless | heq | hgreater
  · simp only [hless, hless.not_gt, if_true, true_and, and_false, not_false_eq_true, and_true]
    by_cases hu : uncast
    · simp only [hu, true_and, not_true_eq_false, and_false, or_false]
      split_ifs at * <;> omega
    · simp only [hu, false_and, not_false_eq_true, and_true, or_false]
      split_ifs at * <;> omega
  · simp only [heq, lt_self_iff_false, if_false, false_and, or_false, not_false_eq_true, and_true, and_false]
    split_ifs <;> omega
  · simp only [hgreater, hgreater.not_gt, if_false, false_and, or_false, not_true_eq_false, and_false, and_true]
    by_cases hu : uncast
    · simp only [hu, true_and, not_true_eq_false, and_false, or_false]
      split_ifs <;> omega
    · simp only [hu, false_and, not_false_eq_true, and_true, or_false]
      split_ifs <;> omega

end Hundredths

section Runs

def cuts (need : UInt16 → GeneralParser → GeneralParser × Bool) : GeneralParser → List UInt16 → List Bool
  | _, [] => []
  | p, azimuth :: rest => (p.turnTo need azimuth).2 :: cuts need (p.turnTo need azimuth).1 rest

variable {azimuths : List UInt16}

lemma cuts_congr (hc : IsCopy need) (h : p.splitState = q.splitState) :
    cuts need p azimuths = cuts need q azimuths := by
  induction azimuths generalizing p q with
  | nil => rfl
  | cons azimuth rest ih =>
    obtain ⟨hcut, hnext⟩ := turnTo_congr hc azimuth h
    rw [cuts, cuts, hcut, ih hnext]

lemma At.keep (hc : IsCopy need) (azimuth : UInt16) (h : At s x y p) (hs : s < 36000) :
    At s x y (need azimuth p).1 := by
  rw [hc.fst_eq]
  exact h.congr (isNeedFrameSplit_splitState p (h.range hs).1 (h.range hs).2 azimuth)

lemma At.turnTo_same (hc : IsCopy need) (h : At s x y p) (hs : s < 36000) (hz : (azimuth.toNat : ℤ) = y) :
    At s x y (p.turnTo need azimuth).1 := by
  have hkeep := h.keep hc azimuth hs
  rw [turnTo, noteAzimuth, if_pos (hz.trans hkeep.last.symm)]
  exact hkeep

lemma At.turnTo_ne (hc : IsCopy need) (h : At s x y p) (hs : s < 36000) (hz : (azimuth.toNat : ℤ) ≠ y) :
    At s y azimuth.toNat (p.turnTo need azimuth).1 := by
  have hkeep := h.keep hc azimuth hs
  rw [turnTo, noteAzimuth, if_neg fun he => hz (he.trans hkeep.last)]
  exact ⟨hkeep.start, hkeep.last, rfl⟩

lemma At.turnTo (hc : IsCopy need) (azimuth : UInt16) (h : At s x y p) (hs : s < 36000) :
    ∃ x', At s x' azimuth.toNat (p.turnTo need azimuth).1 := by
  by_cases hz : (azimuth.toNat : ℤ) = y
  · exact ⟨x, hz ▸ h.turnTo_same hc hs hz⟩
  · exact ⟨y, h.turnTo_ne hc hs hz⟩

lemma At.turnTo_turnTo {a b : UInt16} (hc : IsCopy need) (h : At s x y p) (hs : s < 36000)
    (hab : (b.toNat : ℤ) ≠ a.toNat) :
    At s a.toNat b.toNat ((p.turnTo need a).1.turnTo need b).1 := by
  obtain ⟨x', hx⟩ := h.turnTo hc a hs
  exact hx.turnTo_ne hc hs hab

def positions (azimuths : List UInt16) : List ℤ := azimuths.map fun azimuth => (azimuth.toNat : ℤ)

lemma positions_cons (azimuth : UInt16) (rest : List UInt16) :
    positions (azimuth :: rest) = (azimuth.toNat : ℤ) :: positions rest := rfl

lemma At.forward_splits (hc : IsCopy need) (h : At s x y p) (hs : s < 36000) (hx : 0 ≤ x ∧ x < 36000)
    (hy : 0 ≤ y ∧ y < 36000)
    (hxy : 0 < advance 36000 x y ∧ advance 36000 x y < 18000) (hrange : ∀ z ∈ positions azimuths, z < 36000)
    (hchain : List.IsChain (fun y z => advance 36000 y z < 18000) (y :: positions azimuths)) :
    cuts need p azimuths = passages 36000 s y (positions azimuths) ↔
      List.IsChain (fun y z => ¬ForwardMisses p.startProduct s y z) (y :: positions azimuths) := by
  induction azimuths generalizing p x y with
  | nil => exact iff_of_true rfl (List.IsChain.singleton y)
  | cons azimuth rest ih =>
    rw [positions_cons] at hrange hchain ⊢
    obtain ⟨hyz, hrest⟩ := List.isChain_cons_cons.mp hchain
    obtain ⟨hz, hlt⟩ := List.forall_mem_cons.mp hrange
    have hz0 : 0 ≤ (azimuth.toNat : ℤ) := Int.natCast_nonneg _
    have hcut := h.forward hc hs hx hy rfl hz hxy hyz
    have hih : cuts need (p.turnTo need azimuth).1 rest = passages 36000 s azimuth.toNat (positions rest) ↔
        List.IsChain (fun y z => ¬ForwardMisses p.startProduct s y z) (azimuth.toNat :: positions rest) := by
      by_cases heq : (azimuth.toNat : ℤ) = y
      · have hsame := h.turnTo_same hc hs heq
        rw [← h.startProduct_eq hsame]
        rw [heq] at hrest ⊢
        exact ih hsame hx hy hxy hlt hrest
      · have hpos : 0 < advance 36000 y azimuth.toNat := by
          rw [advance] at hyz ⊢
          omega
        have hnext := h.turnTo_ne hc hs heq
        rw [← h.startProduct_eq hnext]
        exact ih hnext hy ⟨hz0, hz⟩ ⟨hpos, hyz⟩ hlt hrest
    rw [List.isChain_cons_cons, ← hih, ← hcut, cuts, passages, List.cons.injEq, Bool.eq_iff_iff, decide_eq_true_iff]

lemma At.backward_splits (hc : IsCopy need) (h : At s x y p) (hs : s < 36000) (hx : 0 ≤ x ∧ x < 36000)
    (hy : 0 ≤ y ∧ y < 36000)
    (hxy : 0 < advance 36000 y x ∧ advance 36000 y x < 18000) (hrange : ∀ z ∈ positions azimuths, z < 36000)
    (hchain : List.IsChain (fun y z => 0 < advance 36000 z y ∧ advance 36000 z y < 18000) (y :: positions azimuths)) :
    cuts need p azimuths = passages 36000 (-s) (-y) ((positions azimuths).map (- ·)) ↔
      List.IsChain (fun y z => ¬BackwardMisses (need = isNeedFrameSplitUncast) p.startProduct s y z)
        (y :: positions azimuths) := by
  induction azimuths generalizing p x y with
  | nil => exact iff_of_true rfl (List.IsChain.singleton y)
  | cons azimuth rest ih =>
    rw [positions_cons] at hrange hchain ⊢
    obtain ⟨hyz, hrest⟩ := List.isChain_cons_cons.mp hchain
    obtain ⟨hz, hlt⟩ := List.forall_mem_cons.mp hrange
    have hz0 : 0 ≤ (azimuth.toNat : ℤ) := Int.natCast_nonneg _
    have hcut := h.backward hc hs hx hy rfl hz hxy hyz
    have hne : (azimuth.toNat : ℤ) ≠ y := by
      rintro heq
      rw [heq, advance_self] at hyz
      exact hyz.1.false
    have hnext := h.turnTo_ne hc hs hne
    have hih := ih hnext hy ⟨hz0, hz⟩ hyz hlt hrest
    rw [h.startProduct_eq hnext] at hih
    rw [List.isChain_cons_cons, ← hih, ← hcut, cuts, List.map_cons, passages, List.cons.injEq, Bool.eq_iff_iff,
      decide_eq_true_iff]

lemma normalizeFrameStart_lasts : p.normalizeFrameStart.lastLastAzimuth = p.lastLastAzimuth ∧
    p.normalizeFrameStart.lastAzimuth = p.lastAzimuth := by
  rw [normalizeFrameStart]
  split_ifs <;> exact ⟨rfl, rfl⟩

lemma not_parted_of_le (h : p.lastLastAzimuth ≤ p.lastAzimuth) : ¬p.normalizeFrameStart.Parted z := by
  obtain ⟨hll, hl⟩ := normalizeFrameStart_lasts (p := p)
  rintro ⟨-, hfall, -⟩
  rw [hll, hl] at hfall
  exact absurd hfall (not_lt.mpr h)

lemma turnTo_of_equal (hc : IsCopy need) (h : p.lastLastAzimuth = p.lastAzimuth) :
    (p.turnTo need azimuth).2 = false := by
  obtain ⟨hll, hl⟩ := normalizeFrameStart_lasts (p := p)
  rw [turnTo, hc.snd_eq (not_parted_of_le h.le)]
  have hd : p.normalizeFrameStart.division azimuth.toNat = 0 := by
    rw [division, hll, hl, h]
    split_ifs <;> omega
  simp only [isNeedFrameSplit, hd]
  split_ifs <;> rfl

lemma turnTo_second (hc : IsCopy need) {a b : UInt16} (hll : p.lastLastAzimuth = 0) (hl : p.lastAzimuth = a.toNat)
    (ha : a.toNat ≠ 0) : (p.turnTo need b).2 = true ↔
    a.toNat < p.normalizeFrameStart.startAzimuth ∧ p.normalizeFrameStart.startAzimuth ≤ b.toNat ∨
      b.toNat ≤ p.normalizeFrameStart.startAzimuth ∧ p.normalizeFrameStart.startAzimuth < a.toNat := by
  have ha' := a.toNat_lt
  have hb' := b.toNat_lt
  have hle : p.lastLastAzimuth ≤ p.lastAzimuth := by omega
  obtain ⟨hnll, hnl⟩ := normalizeFrameStart_lasts (p := p)
  rw [hll] at hnll
  rw [hl] at hnl
  rw [turnTo, hc.snd_eq (not_parted_of_le hle)]
  simp only [isNeedFrameSplit]
  generalize p.normalizeFrameStart = p at hnll hnl ⊢
  have hd : p.division b.toNat = min (a.toNat : ℤ) ((a.toNat : ℤ) - b.toNat).natAbs := by
    rw [division, hnll, hnl]
    split_ifs <;> omega
  simp only [hd, hnll, hnl, crossesStart, startAzimuth, startProduct]
  rcases lt_trichotomy a.toNat b.toNat with hab | hab | hab
  · rw [if_neg (by decide), if_neg (by omega), if_neg (by omega), if_pos rfl, if_neg (by omega), decide_eq_true_iff]
    omega
  · rw [if_neg (by decide), if_pos (by omega)]
    exact iff_of_false Bool.false_ne_true (by omega)
  · rw [if_neg (by decide), if_neg (by omega), if_pos (by omega), if_neg (by decide), if_neg (by omega),
      decide_eq_true_iff]
    omega

lemma cuts_new (hc : IsCopy need) (hll : p.lastLastAzimuth = 0) (hl : p.lastAzimuth = 0) (a b : UInt16) :
    cuts need p [a, b] = [false, false] ↔
    ¬(a.toNat ≠ 0 ∧ (a.toNat < p.normalizeFrameStart.startAzimuth ∧ p.normalizeFrameStart.startAzimuth ≤ b.toNat ∨
      b.toNat ≤ p.normalizeFrameStart.startAzimuth ∧ p.normalizeFrameStart.startAzimuth < a.toNat)) := by
  have hfirst : (p.turnTo need a).2 = false := turnTo_of_equal hc (hll.trans hl.symm)
  have hlasts : (need a p).1.lastLastAzimuth = 0 ∧ (need a p).1.lastAzimuth = 0 := by
    have h : (p.isNeedFrameSplit a).1.splitState.2 = p.splitState.2 := isNeedFrameSplit_lasts
    simp only [splitState, Prod.mk.injEq, hll, hl] at h
    rwa [hc.fst_eq]
  have hstart : (p.turnTo need a).1.normalizeFrameStart.startAzimuth = p.normalizeFrameStart.startAzimuth := by
    have hfs : (p.turnTo need a).1.frameStartAzimuth = p.normalizeFrameStart.frameStartAzimuth := by
      have hkept : (p.isNeedFrameSplit a).1.frameStartAzimuth = _ := isNeedFrameSplit_start
      rw [turnTo, noteAzimuth, ← hkept, hc.fst_eq]
      split_ifs <;> rfl
    obtain ⟨h0, h360⟩ := normalizeFrameStart_range (p := p)
    rw [← hfs] at h0 h360
    have hn : (p.turnTo need a).1.normalizeFrameStart = (p.turnTo need a).1 := by
      rw [normalizeFrameStart, if_neg (not_or.mpr ⟨not_lt.mpr h0, not_le.mpr h360⟩)]
    rw [hn, startAzimuth, startAzimuth, startProduct, startProduct, hfs]
  have hcuts : cuts need p [a, b] = [false, false] ↔ ¬((p.turnTo need a).1.turnTo need b).2 = true := by
    simp [cuts, hfirst]
  rw [hcuts]
  by_cases ha : a.toNat = 0
  · have hzero : (p.turnTo need a).1.lastLastAzimuth = (p.turnTo need a).1.lastAzimuth := by
      rw [turnTo, noteAzimuth, if_pos (by rw [hlasts.2, ha]; rfl), hlasts.1, hlasts.2]
    rw [turnTo_of_equal hc hzero]
    exact iff_of_true Bool.false_ne_true fun h => h.1 ha
  · have hnote : (p.turnTo need a).1 = { (need a p).1 with lastLastAzimuth := 0, lastAzimuth := a.toNat } := by
      rw [turnTo, noteAzimuth, if_neg (by rw [hlasts.2]; omega), hlasts.2]
    have hsecond := turnTo_second (b := b) hc (congrArg lastLastAzimuth hnote) (congrArg lastAzimuth hnote) ha
    rw [hsecond, hstart, and_iff_right ha]

end Runs

end Turning

end GeneralParser

end HesaiSdk.Parsing
