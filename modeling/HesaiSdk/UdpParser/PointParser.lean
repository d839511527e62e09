import HesaiSdk.UdpParser.Storing
import Mathlib.Data.List.Count

namespace HesaiSdk.Parsing

open Library Library.BlockWalk Lidar UdpProtocol

variable {σ Pt Fault Cal : Type}

/-- Without second returns. -/
structure HasShape (shape : Shape) (frame : LidarDecodedFrame Pt) : Prop where
  blockNum : frame.blockNum = shape.blockNum
  laserNum : frame.laserNum = shape.laserNum
  distanceUnit : frame.distanceUnit = shape.distanceUnit
  perPointsNum : frame.perPointsNum = shape.pointNum

/-- The shape is one that a packet has announced. -/
structure Shaped (announced : UdpPacket → Shape) (shape : Shape) (frame : LidarDecodedFrame Pt) : Prop where
  blockNum : frame.blockNum = shape.blockNum
  laserNum : frame.laserNum + shape.secondNum = shape.laserNum
  distanceUnit : frame.distanceUnit = shape.distanceUnit
  perPointsNum : frame.perPointsNum = shape.pointNum
  announced : ∃ packet, announced packet = shape

lemma Stored.shaped {announced : UdpPacket → Shape} {shape : Shape} {packet : UdpPacket}
    {frame frame' : LidarDecodedFrame Pt} (h : Stored shape frame frame') (hpacket : announced packet = shape) :
    Shaped announced shape frame' :=
  ⟨h.blockNum, h.laserNum, h.distanceUnit, h.perPointsNum, packet, hpacket⟩

lemma Shaped.hasShape {announced : UdpPacket → Shape} {shape : Shape} {frame : LidarDecodedFrame Pt}
    (h : Shaped announced shape frame) (hplain : ∀ packet, (announced packet).secondNum = 0) :
    HasShape shape frame := by
  obtain ⟨packet, rfl⟩ := h.announced
  have hlaser := h.laserNum
  rw [hplain, Nat.add_zero] at hlaser
  exact ⟨h.blockNum, hlaser, h.distanceUnit, h.perPointsNum⟩

lemma Shaped.transfer {announced : UdpPacket → Shape} {shape : Shape} {frame frame' : LidarDecodedFrame Pt}
    (h : Shaped announced shape frame) (hblock : frame'.blockNum = frame.blockNum)
    (hlaser : frame'.laserNum = frame.laserNum) (hunit : frame'.distanceUnit = frame.distanceUnit)
    (hper : frame'.perPointsNum = frame.perPointsNum) : Shaped announced shape frame' :=
  ⟨hblock.trans h.blockNum, hlaser ▸ h.laserNum, hunit.trans h.distanceUnit, hper.trans h.perPointsNum, h.announced⟩

/-- What the points of packet `k` are computed from, and what stands in slot `i` before. -/
structure SameInput (shape : Shape) (k i : ℕ) (frame frame' : LidarDecodedFrame Pt) : Prop where
  config : frame.config = frame'.config
  sensorTimestamp : frame.sensorTimestamp k = frame'.sensorTimestamp k
  pointData : ∀ j, shape.Slot k j → frame.pointData j = frame'.pointData j
  points : frame.points i = frame'.points i

/-- A parser whose points are computed one by one from their own packet and what the files have set. `written` says
which of the slots are: one class skips the blocks that lie in no mirror field. -/
structure PointParser (σ Pt Fault Cal : Type) extends ShapedParser σ Pt Fault where
  calibration : σ → Cal
  keepsCalibration : ∀ p frame packet, calibration (decodePacket p frame packet).val.parser = calibration p
  computes : ∀ format k i p p' frame frame', calibration p = calibration p' → Shaped shape format frame →
    Shaped shape format frame' → format.Slot k i → SameInput format k i frame frame' →
    (computeXYZI p frame k).val i = (computeXYZI p' frame' k).val i
  computesSlots : ∀ format k i p frame, Shaped shape format frame → ¬format.Slot k i →
    (computeXYZI p frame k).val i = frame.points i
  written : Cal → Shape → (ℕ → PointDecodeData) → ℕ → ℕ → Bool
  writtenFrom : ∀ c format pointData pointData' k i, (∀ j, format.Slot k j → pointData j = pointData' j) →
    format.Slot k i → written c format pointData k i = written c format pointData' k i
  writesOnce : ∀ format k i p frame, Shaped shape format frame → (computeXYZI p frame k).log.count (.point i) =
    if format.Slot k i ∧ written (calibration p) format frame.pointData k i = true then 1 else 0

lemma point_injective : Function.Injective DecodeEvent.point := fun _ _ h => DecodeEvent.point.inj h

lemma count_points (base n i : ℕ) : ((List.range' base n).map DecodeEvent.point).count (.point i) =
    if base ≤ i ∧ i < base + n then 1 else 0 := by
  rw [List.count_map_of_injective _ _ point_injective, List.count_range_1']

section Mechanical

variable {shape : Shape} {k i : ℕ} {frame frame' : LidarDecodedFrame Pt}

lemma HasShape.slot_iff (h : HasShape shape frame) : shape.Slot k i ↔ k * frame.perPointsNum ≤ i ∧
    i < k * frame.perPointsNum + frame.blockNum * frame.laserNum := by
  rw [Shape.Slot, h.perPointsNum, h.blockNum, h.laserNum]
  rfl

variable [Point Pt] {env : Environment} {c : Calibration} {spot : ℚ → ℤ}

lemma computeXYZI_congr (h : HasShape shape frame) (h' : HasShape shape frame') (hi : shape.Slot k i)
    (hs : SameInput shape k i frame frame') :
    (c.computeXYZI env spot frame k).val i = (c.computeXYZI env spot frame' k).val i := by
  rw [Calibration.computeXYZI_val, Calibration.computeXYZI_val, if_pos (h.slot_iff.mp hi),
    if_pos (h'.slot_iff.mp hi), h.perPointsNum, h'.perPointsNum, h.laserNum, h'.laserNum, hs.points]
  simp only [Calibration.computePoint, hs.pointData i hi, hs.sensorTimestamp, hs.config, h.distanceUnit,
    h'.distanceUnit]

lemma computeXYZI_of_not_slot (h : HasShape shape frame) (hi : ¬shape.Slot k i) :
    (c.computeXYZI env spot frame k).val i = frame.points i := by
  rw [Calibration.computeXYZI_val, if_neg (h.slot_iff.not.mp hi)]

lemma computeXYZI_count (h : HasShape shape frame) :
    (c.computeXYZI env spot frame k).log.count (.point i) = if shape.Slot k i then 1 else 0 := by
  rw [Calibration.computeXYZI_log, count_points]
  simp only [h.slot_iff]

end Mechanical

section Parsers

variable (env : Environment) (Pt Fault : Type) [Point Pt]

def udp14Points : PointParser Udp14Parser Pt Fault Calibration where
  toShapedParser := (udp14Storing env Pt Fault).toShapedParser
  calibration p := p.toCalibration
  keepsCalibration _ _ _ := Udp14Parser.decodePacket_calibration
  computes shape k i p p' frame frame' hc h h' hi hs := by
    show (p.toCalibration.computeXYZI env _ frame k).val i = (p'.toCalibration.computeXYZI env _ frame' k).val i
    rw [hc]
    exact computeXYZI_congr (h.hasShape fun _ => rfl) (h'.hasShape fun _ => rfl) hi hs
  computesSlots _ _ _ _ _ h hi := computeXYZI_of_not_slot (h.hasShape fun _ => rfl) hi
  written _ _ _ _ _ := true
  writtenFrom _ _ _ _ _ _ _ _ := rfl
  writesOnce _ _ _ _ _ h := (computeXYZI_count (h.hasShape fun _ => rfl)).trans (by simp only [and_true])

def udp61Points : PointParser GeneralParser Pt Fault Calibration where
  toShapedParser := (udp61Storing env Pt Fault).toShapedParser
  calibration p := p.toCalibration
  keepsCalibration _ _ _ := Udp61Parser.decodePacket_calibration
  computes shape k i p p' frame frame' hc h h' hi hs := by
    show (p.toCalibration.computeXYZI env (Udp61Parser.spotCorrection p.toCalibration) frame k).val i =
      (p'.toCalibration.computeXYZI env (Udp61Parser.spotCorrection p'.toCalibration) frame' k).val i
    rw [hc]
    exact computeXYZI_congr (h.hasShape fun _ => rfl) (h'.hasShape fun _ => rfl) hi hs
  computesSlots _ _ _ _ _ h hi := computeXYZI_of_not_slot (h.hasShape fun _ => rfl) hi
  written _ _ _ _ _ := true
  writtenFrom _ _ _ _ _ _ _ _ := rfl
  writesOnce _ _ _ _ _ h := (computeXYZI_count (h.hasShape fun _ => rfl)).trans (by simp only [and_true])

end Parsers

namespace UdpParser

variable {env : Environment} {F : PointParser σ Pt Fault Cal} {u u' : UdpParser σ} {shape : Shape} {k i : ℕ}
  {frame frame' : LidarDecodedFrame Pt}

def calibration (F : PointParser σ Pt Fault Cal) (u : UdpParser σ) : Option Cal := u.parser.map F.calibration

lemma decodePacket_calibration {packet : UdpPacket} (hu : u.parser.isSome) :
    (u.decodePacket env F.toParser frame packet).val.parser.calibration F = u.calibration F := by
  obtain ⟨p, hp⟩ := Option.isSome_iff_exists.mp hu
  by_cases h : packet.packetLen < 6
  · rw [decodePacket_val_of_short h]
  · obtain ⟨-, -, hparser, -⟩ := decodePacket_val_of_some env F.toParser frame hp h
    rw [calibration, calibration, hparser, hp, Option.map_some, Option.map_some, F.keepsCalibration]

lemma computeXYZI_congr (hu : u.parser.isSome) (hc : u.calibration F = u'.calibration F)
    (h : Shaped F.shape shape frame) (h' : Shaped F.shape shape frame') (hi : shape.Slot k i)
    (hs : SameInput shape k i frame frame') :
    (u.computeXYZI F.toParser frame k).val i = (u'.computeXYZI F.toParser frame' k).val i := by
  obtain ⟨p, hp⟩ := Option.isSome_iff_exists.mp hu
  rw [calibration, calibration, hp, Option.map_some, eq_comm, Option.map_eq_some_iff] at hc
  obtain ⟨p', hp', hcal⟩ := hc
  rw [computeXYZI, computeXYZI, hp, hp']
  exact F.computes shape k i p p' frame frame' hcal.symm h h' hi hs

lemma computeXYZI_of_not_slot (h : Shaped F.shape shape frame) (hi : ¬shape.Slot k i) :
    (u.computeXYZI F.toParser frame k).val i = frame.points i := by
  rw [computeXYZI]
  cases u.parser with
  | none => rfl
  | some p => exact F.computesSlots shape k i p frame h hi

lemma computeXYZI_count {c : Cal} (hc : u.calibration F = some c) (h : Shaped F.shape shape frame) :
    (u.computeXYZI F.toParser frame k).log.count (.point i) =
      if shape.Slot k i ∧ F.written c shape frame.pointData k i = true then 1 else 0 := by
  obtain ⟨p, hp, rfl⟩ := Option.map_eq_some_iff.mp hc
  rw [computeXYZI, hp]
  exact F.writesOnce shape k i p frame h

structure Fitted (F : PointParser σ Pt Fault Cal) (c : Cal) (sourceType : ℤ) (u : UdpParser σ) : Prop
    extends u.Ready sourceType where
  calibrated : u.calibration F = some c

lemma Fitted.decodePacket {c : Cal} {sourceType : ℤ} (env : Environment) (frame : LidarDecodedFrame Pt)
    (packet : UdpPacket) (hu : u.Fitted F c sourceType) :
    (u.decodePacket env F.toParser frame packet).val.parser.Fitted F c sourceType :=
  ⟨hu.toReady.decodePacket env F.toFramingParser frame packet,
    (decodePacket_calibration hu.parser).trans hu.calibrated⟩

end UdpParser

end HesaiSdk.Parsing
