import HesaiSdk.Library.Circle
import HesaiSdk.Library.CyclicSearch
import HesaiSdk.UdpParser.Udp43Parser

/-! The mirror fields of the AT128, and the points that `ComputeXYZI` leaves out. -/

namespace HesaiSdk.Parsing.Udp43Parser

open Library Library.BlockWalk Library.Circle Library.CyclicSearch Lidar UdpProtocol

variable {Pt : Type} {p : Udp43Parser} {azimuth : ℤ}

lemma searchField_eq_search (n field : ℕ) :
    p.searchField azimuth n field = search (p.inField azimuth) p.corrections.frameNumber n field := by
  induction n generalizing field with
  | zero => rfl
  | succ n ih => rw [searchField, search, ih]

lemma searchField_eq_find : p.searchField azimuth p.corrections.frameNumber 0 =
    (List.range p.corrections.frameNumber).find? (p.inField azimuth) := by
  rw [searchField_eq_search, search_turn]

lemma searchField_isSome : (p.searchField azimuth p.corrections.frameNumber 0).isSome = true ↔
    ∃ i < p.corrections.frameNumber, p.inField azimuth i = true := by
  rw [searchField_eq_find, find_range_isSome]

lemma u32_of_lt {z : ℤ} (h0 : 0 ≤ z) (h : z < 2 ^ 32) : u32 z = z := Int.emod_eq_of_lt h0 h

lemma u32_way {x y : ℤ} (hx : 0 ≤ x ∧ x < circle) (hy : 0 ≤ y ∧ y < circle) :
    u32 (y + circle - x) % circle = advance circle x y := by
  have hbig : circle < 2 ^ 31 := by decide
  rw [u32_of_lt (by omega) (by omega), advance, show y + circle - x = y - x + circle by ring, Int.add_emod_right]

def OnField (p : Udp43Parser) (azimuth : ℤ) (i : ℕ) : Prop :=
  OnArc (p.corrections.startFrame i).toNat (p.corrections.endFrame i).toNat azimuth

instance {i : ℕ} : Decidable (p.OnField azimuth i) := inferInstanceAs (Decidable (OnArc _ _ _))

lemma inField_iff {i : ℕ} (hstart : ((p.corrections.startFrame i).toNat : ℤ) < circle)
    (hend : ((p.corrections.endFrame i).toNat : ℤ) < circle) (hazimuth : 0 ≤ azimuth ∧ azimuth < circle) :
    p.inField azimuth i = true ↔ p.OnField azimuth i := by
  have hs : 0 ≤ ((p.corrections.startFrame i).toNat : ℤ) ∧ ((p.corrections.startFrame i).toNat : ℤ) < circle :=
    ⟨Int.natCast_nonneg _, hstart⟩
  have he : 0 ≤ ((p.corrections.endFrame i).toNat : ℤ) ∧ ((p.corrections.endFrame i).toNat : ℤ) < circle :=
    ⟨Int.natCast_nonneg _, hend⟩
  have hpos : 0 < circle := by decide
  have hbig : circle < 2 ^ 31 := by decide
  rw [inField, u32_way hs hazimuth, u32_way hazimuth he, u32_way hs he, beq_iff_eq, OnField,
    onArc_iff_advance hs he hazimuth]
  have hfirst := advance_lt (x := ((p.corrections.startFrame i).toNat : ℤ)) (y := azimuth) hpos
  have hrest := advance_lt (x := azimuth) (y := ((p.corrections.endFrame i).toNat : ℤ)) hpos
  rw [u32_of_lt (add_nonneg (advance_nonneg hpos) (advance_nonneg hpos)) (by omega)]

variable [Point Pt] {env : Environment} {frame : LidarDecodedFrame Pt} {packetIndex : ℕ}

/-- The azimuth by which `ComputeXYZI` chooses the mirror field of a block. -/
def firstAzimuth (frame : LidarDecodedFrame Pt) (packetIndex b : ℕ) : ℤ :=
  truncate (frame.pointData (packetIndex * frame.perPointsNum + b * frame.laserNum)).azimuth

def HasField (p : Udp43Parser) (frame : LidarDecodedFrame Pt) (packetIndex b : ℕ) : Prop :=
  p.getCorrectionFile = false ∨
    ∃ i < p.corrections.frameNumber, p.inField (firstAzimuth frame packetIndex b) i = true

omit [Point Pt] in
lemma field_isSome (p : Udp43Parser) (frame : LidarDecodedFrame Pt) (packetIndex b : ℕ) :
    (if p.getCorrectionFile then
      p.searchField (firstAzimuth frame packetIndex b) p.corrections.frameNumber 0
    else some 0).isSome = true ↔ p.HasField frame packetIndex b := by
  cases hc : p.getCorrectionFile with
  | true => simp [HasField, hc, searchField_isSome]
  | false => simp [HasField, hc]

lemma mem_computeXYZI_log {k : ℕ} : DecodeEvent.point k ∈ (p.computeXYZI env frame packetIndex).log ↔
    ∃ b < frame.blockNum, p.HasField frame packetIndex b ∧
      ∃ i < frame.laserNum, k = packetIndex * frame.perPointsNum + b * frame.laserNum + i := by
  rw [computeXYZI, mem_fillGrid_log]
  simp only [Option.isSome_map, DecodeEvent.point.injEq]
  constructor
  · rintro ⟨b, hb, hfield, hi⟩
    exact ⟨b, hb, (field_isSome p frame packetIndex b).mp hfield, hi⟩
  · rintro ⟨b, hb, hfield, hi⟩
    exact ⟨b, hb, (field_isSome p frame packetIndex b).mpr hfield, hi⟩

lemma computeXYZI_skipped {b i : ℕ} (hi : i < frame.laserNum) (hfield : ¬p.HasField frame packetIndex b) :
    (p.computeXYZI env frame packetIndex).val (packetIndex * frame.perPointsNum + b * frame.laserNum + i) =
      frame.points (packetIndex * frame.perPointsNum + b * frame.laserNum + i) := by
  have hnone := (field_isSome p frame packetIndex b).not.mpr hfield
  rw [Option.not_isSome_iff_eq_none] at hnone
  refine fillGrid_skipped _ _ _ hi ?_
  show Option.map _ (ite _ (p.searchField (firstAzimuth frame packetIndex b) _ 0) (some 0)) = none
  rw [hnone, Option.map_none]

/-- The search ends at the first mirror field around the azimuth, and a block outside of all fields is skipped. -/
theorem searchField_least (Pt : Type) [Point Pt] (p : Udp43Parser) (azimuth : ℤ)
    (hazimuth : 0 ≤ azimuth ∧ azimuth < circle)
    (hfields : ∀ i < p.corrections.frameNumber, ((p.corrections.startFrame i).toNat : ℤ) < circle ∧
      ((p.corrections.endFrame i).toNat : ℤ) < circle) :
    ((p.searchField azimuth p.corrections.frameNumber 0).isSome = true ↔
        ∃ i < p.corrections.frameNumber, p.OnField azimuth i) ∧
      (∀ field, p.searchField azimuth p.corrections.frameNumber 0 = some field ↔
        field < p.corrections.frameNumber ∧ p.OnField azimuth field ∧ ∀ i < field, ¬p.OnField azimuth i) ∧
      ∀ (env : Environment) (frame : LidarDecodedFrame Pt) (packetIndex b : ℕ), p.getCorrectionFile = true →
        firstAzimuth frame packetIndex b = azimuth → (∀ i < p.corrections.frameNumber, ¬p.OnField azimuth i) →
        ∀ i < frame.laserNum,
          (p.computeXYZI env frame packetIndex).val (packetIndex * frame.perPointsNum + b * frame.laserNum + i) =
            frame.points (packetIndex * frame.perPointsNum + b * frame.laserNum + i) := by
  have hon : ∀ i < p.corrections.frameNumber, (p.inField azimuth i = true ↔ p.OnField azimuth i) :=
    fun i hi => inField_iff (hfields i hi).1 (hfields i hi).2 hazimuth
  refine ⟨?_, fun field => ?_, ?_⟩
  · rw [searchField_isSome]
    exact exists_congr fun i => and_congr_right fun hi => hon i hi
  · rw [searchField_eq_find, find_range_eq_some]
    refine and_congr_right fun hfield => and_congr (hon field hfield) ?_
    refine forall_congr' fun i => forall_congr' fun hi => ?_
    rw [← hon i (hi.trans hfield), Bool.not_eq_true]
  · intro env frame packetIndex b hcorrected hfirst hnone i hi
    refine computeXYZI_skipped hi ?_
    rintro (hfalse | ⟨field, hfield, hin⟩)
    · rw [hcorrected] at hfalse
      contradiction
    · rw [hfirst] at hin
      exact hnone field hfield ((hon field hfield).mp hin)

def threeFields : Udp43Parser :=
  { (default : Udp43Parser) with
    getCorrectionFile := true
    corrections := { (default : PandarATCorrections) with
      frameNumber := 3
      startFrame := fun i => [0, 3000000, 8500000].getD i 0
      endFrame := fun i => [2000000, 5000000, 500000].getD i 0 } }

/-- The third field reaches over the end of the circle, into the first one. -/
theorem searchField_least_overlap :
    threeFields.searchField 400000 3 0 = some 0 ∧ threeFields.searchField 9000000 3 0 = some 2 := by
  have hfields : ∀ i < threeFields.corrections.frameNumber,
      ((threeFields.corrections.startFrame i).toNat : ℤ) < circle ∧
        ((threeFields.corrections.endFrame i).toNat : ℤ) < circle := by decide
  have hfirst := (searchField_least LidarPointXYZICRT threeFields 400000 (by decide) hfields).2.1 0
  have hlast := (searchField_least LidarPointXYZICRT threeFields 9000000 (by decide) hfields).2.1 2
  exact ⟨hfirst.mpr (by decide), hlast.mpr (by decide)⟩

/-- All points of a packet are written exactly if each of its blocks lies in a mirror field. -/
theorem computeXYZI_writes_iff (env : Environment) (p : Udp43Parser) (frame : LidarDecodedFrame Pt)
    (packetIndex : ℕ) (hper : frame.perPointsNum = frame.blockNum * frame.laserNum) :
    (∀ k, packetIndex * frame.perPointsNum ≤ k → k < (packetIndex + 1) * frame.perPointsNum →
        DecodeEvent.point k ∈ (p.computeXYZI env frame packetIndex).log) ↔
      frame.laserNum = 0 ∨ ∀ b < frame.blockNum, p.HasField frame packetIndex b := by
  have hnext : (packetIndex + 1) * frame.perPointsNum =
      packetIndex * frame.perPointsNum + frame.blockNum * frame.laserNum := by
    rw [Nat.succ_mul, hper]
  rw [hnext]
  constructor
  · intro hwritten
    rcases Nat.eq_zero_or_pos frame.laserNum with hzero | hpos
    · exact Or.inl hzero
    · refine Or.inr fun b hb => ?_
      have hlast : b * frame.laserNum + frame.laserNum ≤ frame.blockNum * frame.laserNum := by
        rw [← Nat.succ_mul]
        exact Nat.mul_le_mul_right _ hb
      obtain ⟨b', -, hfield, i, hi, heq⟩ := mem_computeXYZI_log.mp
        (hwritten (packetIndex * frame.perPointsNum + b * frame.laserNum) (by omega) (by omega))
      -- the first slot of a block belongs to no other block
      have hsame : b = b' := by
        have heq' : b' * frame.laserNum + i = b * frame.laserNum := by omega
        rw [← (div_mod_row b' hi).1, heq', Nat.mul_div_cancel _ hpos]
      rwa [hsame]
  · rintro hfields k hlow hhigh
    obtain ⟨j, rfl⟩ := Nat.exists_eq_add_of_le hlow
    have hpos : 0 < frame.laserNum := by
      rcases Nat.eq_zero_or_pos frame.laserNum with hzero | hpos
      · rw [hzero] at hhigh
        omega
      · exact hpos
    have hb : j / frame.laserNum < frame.blockNum := (Nat.div_lt_iff_lt_mul hpos).mpr (by omega)
    refine mem_computeXYZI_log.mpr ⟨j / frame.laserNum, hb, hfields.resolve_left hpos.ne' _ hb,
      j % frame.laserNum, Nat.mod_lt _ hpos, ?_⟩
    rw [Nat.add_assoc, Nat.div_add_mod']

def pointFrame (azimuth : ℚ) : LidarDecodedFrame LidarPointXYZICRT :=
  { (default : LidarDecodedFrame LidarPointXYZICRT) with
    packetNum := 1
    blockNum := 1
    laserNum := 1
    perPointsNum := 1
    points := fun _ => ⟨1, 2, 3, 40, 0, 5, 6⟩
    pointData := fun _ => { (default : PointDecodeData) with azimuth := azimuth } }

theorem computeXYZI_writes_inner : (pointFrame 3500000).perPointsNum = 1 ∧
    ∀ k, 0 * (pointFrame 3500000).perPointsNum ≤ k → k < (0 + 1) * (pointFrame 3500000).perPointsNum →
      DecodeEvent.point k ∈ (threeFields.computeXYZI default (pointFrame 3500000) 0).log := by
  refine ⟨rfl, ?_⟩
  refine (computeXYZI_writes_iff default threeFields (pointFrame 3500000) 0 rfl).mpr (Or.inr fun b hb => ?_)
  obtain rfl := Nat.lt_one_iff.mp hb
  exact Or.inr ⟨1, by decide, by decide +kernel⟩

/-- Between the first and the second field the old point stays. -/
theorem computeXYZI_stale : ¬∀ (p : Udp43Parser) (frame : LidarDecodedFrame LidarPointXYZICRT) (packetIndex : ℕ),
    p.getCorrectionFile = true → frame.perPointsNum = frame.blockNum * frame.laserNum →
    packetIndex < frame.packetNum → ∀ k, packetIndex * frame.perPointsNum ≤ k →
    k < (packetIndex + 1) * frame.perPointsNum →
      DecodeEvent.point k ∈ (p.computeXYZI default frame packetIndex).log := by
  intro h
  obtain ⟨b, hb, hfield, -⟩ := mem_computeXYZI_log.mp
    (h threeFields (pointFrame 2500000) 0 rfl rfl Nat.one_pos 0 (Nat.zero_le 0) Nat.one_pos)
  obtain rfl := Nat.lt_one_iff.mp hb
  have hnone : ∀ i < 3, threeFields.inField (firstAzimuth (pointFrame 2500000) 0 0) i = false := by decide +kernel
  rcases hfield with hfalse | ⟨i, hi, hin⟩
  · exact Bool.noConfusion hfalse
  · rw [hnone i hi] at hin
    contradiction

end HesaiSdk.Parsing.Udp43Parser
