import HesaiSdk.UdpParser.EtStoring
import HesaiSdk.UdpParser.MirrorField

/-! The parsers whose `ComputeXYZI` goes by the blocks of a packet, of which the one of the AT128 skips some. -/

namespace HesaiSdk.Parsing

open Library Library.BlockWalk Lidar UdpProtocol

variable {σ Pt Fault Cal : Type}

/-- What is written into the slots of block `b` of packet `k`, if the block is not skipped. -/
structure Rows (Pt Cal : Type) where
  row : Cal → LidarDecodedFrame Pt → ℕ → ℕ → Option (ℕ → Pt → Pt)
  covered : Cal → Shape → (ℕ → PointDecodeData) → ℕ → ℕ → Bool
  isSome_row : ∀ c shape frame k b, HasShape shape frame →
    (row c frame k b).isSome = covered c shape frame.pointData k b
  coveredFrom : ∀ c shape pointData pointData' k b, (∀ j, shape.Slot k j → pointData j = pointData' j) →
    b < shape.blockNum → 0 < shape.laserNum → covered c shape pointData k b = covered c shape pointData' k b
  congr : ∀ c shape frame frame' k b i, HasShape shape frame → HasShape shape frame' → b < shape.blockNum →
    i < shape.laserNum →
    frame.config = frame'.config → frame.sensorTimestamp k = frame'.sensorTimestamp k →
    (∀ j, shape.Slot k j → frame.pointData j = frame'.pointData j) →
    (row c frame k b).map (· i) = (row c frame' k b).map (· i)

section Slots

variable {shape : Shape} {k i b : ℕ}

lemma Shape.Slot.exists_unit (h : shape.Slot k i) : ∃ b < shape.blockNum, ∃ j < shape.laserNum,
    (i - k * shape.pointNum) / shape.laserNum = b ∧ (i - k * shape.pointNum) % shape.laserNum = j ∧
      i = k * shape.pointNum + b * shape.laserNum + j := by
  obtain ⟨hlow, hhigh⟩ := h
  have hrow : i - k * shape.pointNum < shape.blockNum * shape.laserNum := by
    rw [Shape.pointNum] at *
    omega
  have hpos : 0 < shape.laserNum := Nat.pos_of_mul_pos_left (Nat.zero_lt_of_lt hrow)
  have hunit := Nat.div_add_mod' (i - k * shape.pointNum) shape.laserNum
  exact ⟨_, (Nat.div_lt_iff_lt_mul hpos).mpr hrow, _, Nat.mod_lt _ hpos, rfl, rfl, by omega⟩

lemma Shape.slot_unit {j : ℕ} (hb : b < shape.blockNum) (hj : j < shape.laserNum) :
    shape.Slot k (k * shape.pointNum + b * shape.laserNum + j) := by
  have hle : b * shape.laserNum + shape.laserNum ≤ shape.pointNum := by
    rw [← Nat.succ_mul]
    exact Nat.mul_le_mul_right _ hb
  exact ⟨by omega, by omega⟩

end Slots

lemma grid_map {Slot : Type} (base width : ℕ) (row : ℕ → Option (ℕ → Slot → Slot)) (blocks : ℕ) (s : ℕ → Slot)
    (i : ℕ) : grid base width row blocks s i = if base ≤ i ∧ i < base + blocks * width then
      ((row ((i - base) / width)).map (· ((i - base) % width))).elim (s i) fun cell => cell (s i) else s i := by
  rw [grid]
  cases row ((i - base) / width) <;> rfl

def ShapedParser.rowPoints (F : ShapedParser σ Pt Fault) (plain : ∀ packet, (F.shape packet).secondNum = 0)
    (R : Rows Pt Cal) (calibration : σ → Cal)
    (keeps : ∀ p frame packet, calibration (F.decodePacket p frame packet).val.parser = calibration p)
    (computes : ∀ p frame k shape, Shaped F.shape shape frame → F.computeXYZI p frame k =
      fillGrid .point (k * frame.perPointsNum) frame.laserNum (R.row (calibration p) frame k) frame.blockNum
        frame.points) : PointParser σ Pt Fault Cal where
  toShapedParser := F
  calibration := calibration
  keepsCalibration := keeps
  computes shape k i p p' frame frame' hc h h' hi hs := by
    obtain ⟨b, hb, j, hj, hdiv, hmod, -⟩ := hi.exists_unit
    have hshape := h.hasShape plain
    have hshape' := h'.hasShape plain
    have hrow := R.congr (calibration p') shape frame frame' k b j hshape hshape' hb hj hs.config hs.sensorTimestamp
      hs.pointData
    rw [computes p frame k shape h, computes p' frame' k shape h', hc, fillGrid_val, fillGrid_val, grid_map, grid_map,
      if_pos (hshape.slot_iff.mp hi), if_pos (hshape'.slot_iff.mp hi), hshape.perPointsNum, hshape'.perPointsNum,
      hshape.laserNum, hshape'.laserNum, hdiv, hmod, hrow, hs.points]
  computesSlots shape k i p frame h hi := by
    rw [computes p frame k shape h, fillGrid_val, grid_map, if_neg ((h.hasShape plain).slot_iff.not.mp hi)]
  written c shape pointData k i := R.covered c shape pointData k ((i - k * shape.pointNum) / shape.laserNum)
  writtenFrom c shape pointData pointData' k i hdata hi := by
    obtain ⟨b, hb, j, hj, hdiv, -, -⟩ := hi.exists_unit
    rw [hdiv]
    exact R.coveredFrom c shape pointData pointData' k b hdata hb (Nat.zero_lt_of_lt hj)
  writesOnce shape k i p frame h := by
    have hshape := h.hasShape plain
    rw [computes p frame k shape h, count_fillGrid_log _ _ _ point_injective]
    simp only [R.isSome_row _ shape frame k _ hshape, hshape.slot_iff, hshape.perPointsNum, hshape.laserNum]

/-- Rows that are never skipped. -/
def Rows.full (cell : Cal → LidarDecodedFrame Pt → ℕ → ℕ → ℕ → Pt → Pt)
    (congr : ∀ c shape frame frame' k b i, HasShape shape frame → HasShape shape frame' → b < shape.blockNum →
      i < shape.laserNum → frame.config = frame'.config → frame.sensorTimestamp k = frame'.sensorTimestamp k →
      (∀ j, shape.Slot k j → frame.pointData j = frame'.pointData j) → cell c frame k b i = cell c frame' k b i) :
    Rows Pt Cal where
  row c frame k b := some (cell c frame k b)
  covered _ _ _ _ _ := true
  isSome_row _ _ _ _ _ _ := rfl
  coveredFrom _ _ _ _ _ _ _ _ _ := rfl
  congr c shape frame frame' k b i h h' hb hi hconfig hstamp hdata := by
    rw [Option.map_some, Option.map_some, congr c shape frame frame' k b i h h' hb hi hconfig hstamp hdata]

section Units

variable {shape : Shape} {frame frame' : LidarDecodedFrame Pt} {k b i : ℕ}

lemma HasShape.unit_data (h : HasShape shape frame) (h' : HasShape shape frame') (hb : b < shape.blockNum)
    (hi : i < shape.laserNum) (hdata : ∀ j, shape.Slot k j → frame.pointData j = frame'.pointData j) :
    frame.pointData (k * frame.perPointsNum + b * frame.laserNum + i) =
      frame'.pointData (k * frame'.perPointsNum + b * frame'.laserNum + i) := by
  rw [h.perPointsNum, h'.perPointsNum, h.laserNum, h'.laserNum]
  exact hdata _ (Shape.slot_unit hb hi)

end Units

namespace Udp43Parser

/-- What the files have set. -/
def calibrated (p : Udp43Parser) : Udp43Parser where
  toGeneralParser := { (default : GeneralParser) with toCalibration := p.toCalibration }
  corrections := p.corrections

def blockField (p : Udp43Parser) (first : ℤ) : Option ℕ :=
  if p.getCorrectionFile then p.searchField first p.corrections.frameNumber 0 else some 0

lemma blockField_calibrated (p : Udp43Parser) (first : ℤ) : p.calibrated.blockField first = p.blockField first := by
  have hsearch (n field : ℕ) : p.calibrated.searchField first n field = p.searchField first n field := by
    rw [searchField_eq_search, searchField_eq_search]
    rfl
  rw [blockField, blockField]
  exact congrArg (fun found => if p.getCorrectionFile = true then found else some 0) (hsearch _ _)

variable {Pt : Type}

lemma decodePacket_calibrated {env : Environment} {packet : UdpPacket} {p : Udp43Parser}
    {frame : LidarDecodedFrame Pt} : (p.decodePacket env packet frame).val.parser.calibrated = p.calibrated := by
  have hcorrections : (p.decodePacket env packet frame).val.parser.corrections = p.corrections := by
    by_cases he : EndsFrame packet p
    · rw [decodePacket_of_endsFrame _ _ _ _ he, val_pure]
    · rw [decodePacket_val _ _ _ _ he]
      split_ifs <;> rfl
  rw [calibrated, decodePacket_calibration, hcorrections]
  rfl

variable [Point Pt]

def rows (env : Environment) : Rows Pt Udp43Parser where
  row p frame k b := (p.blockField (firstAzimuth frame k b)).map fun field i =>
    let data := frame.pointData (k * frame.perPointsNum + b * frame.laserNum + i)
    let angles := p.pointAngles field (truncate data.azimuth) i
    p.fillPoint env frame.config data (frame.sensorTimestamp k) (data.distances.toNat * frame.distanceUnit) angles.1
      angles.2 i
  covered p shape pointData k b :=
    (p.blockField (truncate (pointData (k * shape.pointNum + b * shape.laserNum)).azimuth)).isSome
  isSome_row p shape frame k b h := by
    rw [Option.isSome_map, firstAzimuth, h.perPointsNum, h.laserNum]
  coveredFrom p shape pointData pointData' k b hdata hb hpos := by
    exact congrArg (fun data => (p.blockField (truncate data.azimuth)).isSome) (hdata _ (Shape.slot_unit hb hpos))
  congr p shape frame frame' k b i h h' hb hi hconfig hstamp hdata := by
    have hfirst : firstAzimuth frame k b = firstAzimuth frame' k b := by
      rw [firstAzimuth, firstAzimuth]
      exact congrArg (truncate ·.azimuth) (h.unit_data h' hb (Nat.zero_lt_of_lt hi) hdata)
    rw [Option.map_map, Option.map_map, hfirst]
    refine congrArg (Option.map · _) ?_
    funext field
    simp only [Function.comp_apply, h.unit_data h' hb hi hdata, hconfig, hstamp, h.distanceUnit, h'.distanceUnit]

end Udp43Parser

lemma EtParser.guarded_corrections {Corrections : Type} {env : Environment} {packet : UdpPacket}
    {p : EtParser Corrections} {frame : LidarDecodedFrame Pt}
    {body : Logged DecodeEvent (Decoded (EtParser Corrections) Pt)}
    (hbody : body.val.parser.corrections = p.corrections) :
    (guarded env packet p frame body).val.parser.corrections = p.corrections := by
  rw [guarded_val]
  split_ifs
  · exact hbody
  · rfl

section Parsers

variable (env : Environment) (Pt Fault : Type) [Point Pt]

def udp43Points (parserFaultMessage : UdpPacket → Fault → Fault) : PointParser Udp43Parser Pt Fault Udp43Parser :=
  (udp43Storing env Pt Fault parserFaultMessage).rowPoints (fun _ => rfl) (Udp43Parser.rows env) Udp43Parser.calibrated
    (fun _ _ _ => Udp43Parser.decodePacket_calibrated)
    (by
      intro p frame k shape _
      simp only [Udp43Parser.rows, Udp43Parser.blockField_calibrated]
      rfl)

def udp24Points : PointParser (EtParser ETCorrectionsV4) Pt Fault ETCorrectionsV4 :=
  (udp24Storing env Pt Fault).rowPoints (fun _ => rfl)
    (Rows.full
      (fun c frame k b i =>
        let data := frame.pointData (k * frame.perPointsNum + b * frame.laserNum + i)
        let angles := mirrorAngles env c.azimuths c.elevations (c.elevations 2) i data.azimuth data.elevation
        fillEtPoint env frame.config data (frame.sensorTimestamp k) (data.distances.toNat * frame.distanceUnit) angles
          true i)
      (by
        intro c shape frame frame' k b i h h' hb hi hconfig hstamp hdata
        simp only [h.unit_data h' hb hi hdata, hconfig, hstamp, h.distanceUnit, h'.distanceUnit]))
    (fun p => p.corrections) (fun _ _ _ => EtParser.guarded_corrections rfl) fun _ _ _ _ _ => rfl

/-- The mirror and the turn of a packet stand in its first slot. -/
def udp25Points : PointParser (EtParser ETCorrections) Pt Fault ETCorrections :=
  (udp25Storing env Pt Fault).rowPoints (fun _ => rfl)
    (Rows.full
      (fun c frame k b i =>
        let data := Udp25Parser.pointDataAt frame k b i
        let gamma := (Udp25Parser.readGamma c frame k).val
        fillEtPoint env frame.config data (frame.sensorTimestamp k) (data.distances.toNat * frame.distanceUnit)
          (Udp25Parser.pointAngles env c frame k gamma data i).val false i)
      (by
        intro c shape frame frame' k b i h h' hb hi hconfig hstamp hdata
        have hbyte : Udp25Parser.mirrorByte frame k = Udp25Parser.mirrorByte frame' k := by
          rw [Udp25Parser.mirrorByte, Udp25Parser.mirrorByte, h.perPointsNum, h'.perPointsNum]
          have hpos : 0 < shape.pointNum := Nat.mul_pos (Nat.zero_lt_of_lt hb) (Nat.zero_lt_of_lt hi)
          exact congrArg PointDecodeData.mirrorIndex (hdata _ ⟨le_rfl, Nat.lt_add_of_pos_right hpos⟩)
        simp only [Udp25Parser.pointDataAt, Udp25Parser.readGamma, Udp25Parser.pointAngles, Udp25Parser.mirrorIndex,
          Udp25Parser.turnIndex, hbyte, h.unit_data h' hb hi hdata, hconfig, hstamp, h.distanceUnit, h'.distanceUnit]))
    (fun p => p.corrections) (fun _ _ _ => EtParser.guarded_corrections rfl) fun _ _ _ _ _ => rfl

/-- A packet is one row. -/
def udp72Points : PointParser Udp72Parser Pt Fault Calibration :=
  (udp72Storing env Pt Fault).rowPoints (fun _ => rfl)
    (Rows.full
      (fun c frame k b i =>
        let data := frame.pointData (k * frame.perPointsNum + b * frame.laserNum + i)
        let p := { (default : Udp72Parser) with toCalibration := c }
        let angles := p.pointAngles data
        c.fillPlainPoint env frame.config data (frame.sensorTimestamp k) (data.distances.toNat * frame.distanceUnit)
          angles.1 angles.2 i)
      (by
        intro c shape frame frame' k b i h h' hb hi hconfig hstamp hdata
        simp only [h.unit_data h' hb hi hdata, hconfig, hstamp, h.distanceUnit, h'.distanceUnit]))
    (fun p => p.toCalibration)
    (by
      intro p frame packet
      show (p.decodePacket env packet frame).val.parser.toCalibration = _
      rw [Udp72Parser.decodePacket_val]
      split_ifs
      · simp [Udp72Parser.decodeBody]
      · rfl)
    (by
      intro p frame k shape h
      obtain ⟨packet, rfl⟩ := h.announced
      rw [show frame.blockNum = 1 from h.blockNum]
      refine Eq.trans ?_ (fillGrid_one _ _ _ _ _).symm
      show Udp72Parser.computeXYZI env p frame k = _
      simp only [Udp72Parser.computeXYZI, Nat.zero_mul, Nat.add_zero]
      rfl)

end Parsers

end HesaiSdk.Parsing
