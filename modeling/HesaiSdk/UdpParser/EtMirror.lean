import HesaiSdk.UdpParser.EtAdjustGrid
import HesaiSdk.UdpParser.Udp25Layout

/-! The mirror and the turn of a 2.5 packet index tables of a calibration file of version 4. -/

namespace HesaiSdk.Parsing

open Library Library.BlockWalk Library.ByteLayout Library.FloatRounding Lidar UdpProtocol

/-- What is accessed lies within what the file had: a mirror of its mirrors, an entry of the grids of its turns. -/
def EtAccess.Inside (c : ETCorrections) : EtAccess → Prop
  | .gamma mirror => mirror < c.header.mirrorNumber
  | .offsetDelta mirror => mirror < c.header.mirrorNumber
  | .adjust _ index => 0 ≤ index ∧ index < c.turnNumberPerFrame *
      (c.azimuthOffsetNum roundFloat ETCorrections.resolutionV4 *
        c.elevationOffsetNum roundFloat ETCorrections.elevationFovV4 ETCorrections.resolutionV4) ∧
      index < adjustCapacity

section Numbers

end Numbers

section Counts

variable {c : ETCorrections}

end Counts

structure LoadedMirrors (data : CorrectionData) (p : EtParser ETCorrections) : Prop where
  getCorrectionFile : p.getCorrectionFile = true
  minVersion : p.corrections.minVersion = 4
  headerMinVersion : p.corrections.header.minVersion = 4
  azimuthInterval : 0 < p.corrections.azimuthAdjustInterval.toNat
  elevationInterval : 0 < p.corrections.elevationAdjustInterval.toNat
  mirrorNumber : p.corrections.header.mirrorNumber = (data 8).toNat
  mirrorNumber_le : (data 8).toNat ≤ 8
  turnNumber : p.corrections.turnNumberPerFrame = (data 9).toNat

section Lookups

variable {c : ETCorrections} {mirror turn : ℕ}

end Lookups

namespace Udp25Parser

section Accesses

variable {env : Environment} {Pt : Type} {p : EtParser ETCorrections} {frame : LidarDecodedFrame Pt}
  {packetIndex : ℕ} {data : CorrectionData}

lemma readGamma_log (hp : LoadedMirrors data p) :
    (readGamma p.corrections frame packetIndex).log = [.gamma (mirrorIndex frame packetIndex)] := by
  rw [readGamma, if_pos hp.minVersion, log_bind]
  rfl

lemma pointAngles_eq (hp : LoadedMirrors data p) (gamma : ℚ) (point : PointDecodeData) (i : ℕ) :
    pointAngles env p.corrections frame packetIndex gamma point i =
      adjustV4 p.corrections (mirrorIndex frame packetIndex) (turnIndex frame packetIndex)
        (mirrorAngles env p.corrections.azimuths p.corrections.elevations gamma i point.azimuth point.elevation) := by
  rw [pointAngles, hp.headerMinVersion, if_neg (by decide), if_pos hp.minVersion]

lemma tableAccesses_single (hp : LoadedMirrors data p) (hblock : frame.blockNum = 1) (hlaser : frame.laserNum = 1) :
    tableAccesses env p.corrections frame packetIndex = .gamma (mirrorIndex frame packetIndex) ::
      (adjustV4 p.corrections (mirrorIndex frame packetIndex) (turnIndex frame packetIndex)
        (mirrorAngles env p.corrections.azimuths p.corrections.elevations
          (p.corrections.gammaF (mirrorIndex frame packetIndex)) 0
          (frame.pointData (packetIndex * frame.perPointsNum)).azimuth
          (frame.pointData (packetIndex * frame.perPointsNum)).elevation)).log := by
  have hgamma : (readGamma p.corrections frame packetIndex).val =
      p.corrections.gammaF (mirrorIndex frame packetIndex) := by
    rw [readGamma, if_pos hp.minVersion, val_bind, val_pure]
  rw [tableAccesses, readGamma_log hp, hgamma, hblock, hlaser]
  simp only [List.range_one, List.flatMap_singleton, List.singleton_append, pointAngles_eq hp, pointDataAt,
    Nat.zero_mul, Nat.add_zero]

end Accesses

end Udp25Parser

section Steering

end Steering

namespace Udp25Parser

section Packets

variable (env : Environment) {Pt : Type} {p : EtParser ETCorrections} (frame : LidarDecodedFrame Pt)

lemma firstPoint {packet : UdpPacket} {h : EtHeader} (hh : EtHeader.headerAt env packet = h)
    (hc : p.getCorrectionFile = true) (hd : Delimited env packet) (hblocks : 0 < h.getBlockNum)
    (hseqs : 0 < h.getSeqNum) (hunits : 0 < h.getLaserNum / h.getSeqNum) :
    let point := (decodePacket env packet p frame).val.frame.pointData
      (frame.packetNum * h.getBlockNum * h.getLaserNum)
    point.mirrorIndex = byteAt env packet (V25.mirrorIndexOffset h) ∧
      point.azimuth = EtBody.angleAt env packet 15 ∧ point.elevation = EtBody.angleAt env packet 17 := by
  have hslot := slot_of_walk env packet hblocks hseqs hunits (frame.packetNum * h.getBlockNum * h.getLaserNum)
    frame.pointData
  have hnumber : (packedBody env packet h).unitNumber 0 0 0 = 0 := by simp [EtBody.unitNumber]
  have hrecord : (packedBody env packet h).recordOffset 0 0 = 15 := by
    simp [EtBody.recordOffset, EtBody.sizeofPointId]
  rw [hnumber, Nat.add_zero, EtBody.unitAt, hrecord] at hslot
  rw [decodePacket_val frame hc hd, hh, EtParser.decodeMessage_pointData, walk, val_bind, readU8_val, hslot]
  simp only [packedBody, body, val_bind, val_pure, and_self]

def mirrorPacket (mirror : UInt8) (azimuth elevation : Int16) : UdpPacket :=
  UdpPacket.ofBytes ([0xEE, 0xFF, 2, 5, 0, 0, 1, 1, 1, 5, 1, 1, 0, 0, 0] ++ leBytes 2 azimuth.toUInt16.toNat ++
    leBytes 2 elevation.toUInt16.toNat ++ [0, 0, 0, 0, 0, 0, 0, 0, 0, 0, 0, mirror])

variable (mirror : UInt8) (azimuth elevation : Int16)

lemma mirrorPacket_delimited : Delimited env (mirrorPacket mirror azimuth elevation) := ⟨rfl, rfl⟩

lemma mirrorPacket_header : EtHeader.headerAt env (mirrorPacket mirror azimuth elevation) = ⟨1, 1, 5, 1, 0⟩ := rfl

lemma mirrorPacket_angles :
    EtBody.angleAt env (mirrorPacket mirror azimuth elevation) 15 = (azimuth.toInt : ℚ) / 512 ∧
      EtBody.angleAt env (mirrorPacket mirror azimuth elevation) 17 = (elevation.toInt : ℚ) / 512 := by
  have hazimuth := @readU16_of_holds env (mirrorPacket mirror azimuth elevation) 15 azimuth.toUInt16 ⟨rfl, rfl, trivial⟩
  have helevation := @readU16_of_holds env (mirrorPacket mirror azimuth elevation) 17 elevation.toUInt16
    ⟨rfl, rfl, trivial⟩
  rw [EtBody.angleAt, EtBody.angleAt, readI16, readI16, val_bind, val_bind, hazimuth, helevation]
  exact ⟨rfl, rfl⟩

lemma mirrorPacket_point (hc : p.getCorrectionFile = true) :
    let point := (decodePacket env (mirrorPacket mirror azimuth elevation) p frame).val.frame.pointData frame.packetNum
    point.mirrorIndex = mirror ∧ point.azimuth = (azimuth.toInt : ℚ) / 512 ∧
      point.elevation = (elevation.toInt : ℚ) / 512 := by
  have hpoint := firstPoint env frame (mirrorPacket_header env mirror azimuth elevation) hc
    (mirrorPacket_delimited env mirror azimuth elevation) (by decide) (by decide) (by decide)
  have hindex : frame.packetNum * (⟨1, 1, 5, 1, 0⟩ : EtHeader).getBlockNum * (⟨1, 1, 5, 1, 0⟩ : EtHeader).getLaserNum =
      frame.packetNum := (Nat.mul_one _).trans (Nat.mul_one _)
  obtain ⟨hazi, hele⟩ := mirrorPacket_angles env mirror azimuth elevation
  rw [hindex, hazi, hele] at hpoint
  exact hpoint

lemma mirrorPacket_grid (hc : p.getCorrectionFile = true) :
    let d := (decodePacket env (mirrorPacket mirror azimuth elevation) p frame).val
    d.ret = 0 ∧ d.frame.blockNum = 1 ∧ d.frame.laserNum = 1 ∧ d.frame.perPointsNum = 1 := by
  rw [decodePacket_val frame hc (mirrorPacket_delimited env mirror azimuth elevation), mirrorPacket_header]
  exact ⟨rfl, rfl, rfl, rfl⟩

end Packets

section Keeping

variable (env : Environment) {Pt : Type} (frame : LidarDecodedFrame Pt) {data : CorrectionData}
  {p : EtParser ETCorrections} {mirror : UInt8}

/-- In whatever packet the byte comes, `ComputeXYZI` keeps within the tables. -/
def KeepsInside (c : ETCorrections) (b : UInt8) : Prop :=
  ∀ (packet : UdpPacket) (p : EtParser ETCorrections) (packetIndex : ℕ), p.corrections = c →
    (decodePacket env packet p frame).val.ret = 0 →
    mirrorByte (decodePacket env packet p frame).val.frame packetIndex = b →
    ∀ e ∈ tableAccesses env c (decodePacket env packet p frame).val.frame packetIndex, e.Inside c

variable {env frame}

lemma KeepsInside.single (hp : LoadedMirrors data p) (hkeeps : KeepsInside env frame p.corrections mirror)
    (azimuth elevation : Int16) : ∀ e ∈ EtAccess.gamma (mirror >>> 4 &&& 0x0F).toNat ::
      (adjustV4 p.corrections (mirror >>> 4 &&& 0x0F).toNat (mirror &&& 0x0F).toNat
        (mirrorAngles env p.corrections.azimuths p.corrections.elevations
          (p.corrections.gammaF (mirror >>> 4 &&& 0x0F).toNat) 0 ((azimuth.toInt : ℚ) / 512)
          ((elevation.toInt : ℚ) / 512))).log, e.Inside p.corrections := by
  obtain ⟨hret, hblock, hlaser, hper⟩ := mirrorPacket_grid env frame mirror azimuth elevation hp.getCorrectionFile
  obtain ⟨hmirror, hazimuth, helevation⟩ :=
    mirrorPacket_point env frame mirror azimuth elevation hp.getCorrectionFile
  have hbyte : mirrorByte (decodePacket env (mirrorPacket mirror azimuth elevation) p frame).val.frame
      frame.packetNum = mirror := by
    rw [mirrorByte, hper, Nat.mul_one, hmirror]
  have hinside := hkeeps (mirrorPacket mirror azimuth elevation) p frame.packetNum rfl hret hbyte
  rw [tableAccesses_single hp hblock hlaser, mirrorIndex, turnIndex, hbyte, hper, Nat.mul_one, hazimuth,
    helevation] at hinside
  exact hinside

end Keeping

end Udp25Parser

section Files

variable (mirrors turns azimuthInterval elevationInterval : UInt8)

/-- A file of one channel and of these numbers, of which every angle and every offset is 0. -/
def mirrorFile : CorrectionData := fun o =>
  if o = 20 + 6 * mirrors.toNat then azimuthInterval
  else if o = 21 + 6 * mirrors.toNat then elevationInterval
  else [0xEE, 0xFF, 0, 4, 0, 0, 1, 0, mirrors, turns, 1].getD o 0

def mirrorParser : EtParser ETCorrections :=
  ((Udp25Parser.loadCorrectionDatData (mirrorFile mirrors turns azimuthInterval elevationInterval) default).getD
    default).1

variable {mirrors turns azimuthInterval elevationInterval}

end Files

namespace Udp25Parser

end Udp25Parser

end HesaiSdk.Parsing
