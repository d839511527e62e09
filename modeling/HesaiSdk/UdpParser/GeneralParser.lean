import HesaiSdk.Library.FloatRounding
import HesaiSdk.UdpProtocol.PacketBytes

namespace HesaiSdk.Parsing

open Library Library.FloatRounding Lidar UdpProtocol

/-- `CIRCLE`: a full turn in units of 0.01 / 256 degree. -/
def circle : ℤ := 36000 * 256

/-- `int(entry * kAllFineResolutionFloat)` -/
def fineAngle (entry : ℚ) : ℤ := truncate (roundFloat (entry * kAllFineResolutionFloat))

structure Transform where
  x : ℚ
  y : ℚ
  z : ℚ
  roll : ℚ
  pitch : ℚ
  yaw : ℚ
deriving Inhabited

inductive DistanceCorrectionType where
  | opticalCenter
  | geometricCenter
deriving DecidableEq

structure LidarOpticalCenter where
  x : ℚ
  y : ℚ
  z : ℚ
deriving Inhabited

structure PacketSeqnumLossMessage where
  startSeqnum : UInt32 := 0
  lastSeqnum : UInt32 := 0
  lossCount : UInt32 := 0
  startTime : UInt32 := 0
  totalLossCount : UInt32 := 0
  totalStartSeqnum : UInt32 := 0
  isPacketLoss : Bool := false
deriving DecidableEq

structure PacketTimeLossMessage where
  startTimestamp : UInt64 := 0
  lastTimestamp : UInt64 := 0
  timelossCount : UInt32 := 0
  timelossStartTime : UInt32 := 0
  totalTimelossCount : UInt32 := 0
  totalStartTimestamp : UInt64 := 0
  lastTotalPackageCount : UInt32 := 0
deriving DecidableEq

/-- The fields of `GeneralParser` that are set up before point clouds are parsed; `ComputeXYZI`
depends on no others. -/
structure Calibration where
  getCorrectionFile : Bool
  getFiretimeFile : Bool
  elevationCorrection : ℕ → ℚ
  azimuthCollection : ℕ → ℚ
  firetimeCorrection : ℕ → ℚ
  enableDistanceCorrection : Bool
  opticalCenter : LidarOpticalCenter
  transform : Transform
  lidarType : String
deriving Inhabited

/-- The fields of `GeneralParser` that decoding and computing use; `ticks` counts the readings of
the clock made so far. -/
structure GeneralParser extends Calibration where
  enableUpdateMonitorInfo : Bool
  monitorInfo1 : UInt8 → UInt16
  monitorInfo2 : UInt8 → UInt16
  monitorInfo3 : UInt8 → UInt16
  enablePacketLossTool : Bool
  enablePacketTimelossTool : Bool
  packetTimelossToolContinue : Bool
  totalPacketCount : UInt32
  seqnumLossMessage : PacketSeqnumLossMessage
  timeLossMessage : PacketTimeLossMessage
  spinSpeed : UInt16
  isDualReturn : Bool
  useAngle : Bool
  lastAzimuth : ℤ
  lastLastAzimuth : ℤ
  rotationFlag : ℤ
  frameStartAzimuth : ℚ
  ticks : ℕ

namespace Calibration

variable (env : Environment)

def getFiretimesCorrection (p : Calibration) (laserId : ℕ) (speed : ℚ) : Logged DecodeEvent ℚ := do
  note (.firetime laserId 0)
  pure (p.firetimeCorrection laserId * speed * (6 / 1000000))

lemma allows_getFiretimesCorrection {bounds : Bounds} {p : Calibration} {laserId : ℕ} {speed : ℚ} :
    AllLog bounds.Allows (p.getFiretimesCorrection laserId speed) := by
  rw [getFiretimesCorrection, allLog_bind, allLog_note]
  exact ⟨trivial, allLog_pure _⟩

def sinAllAngle (i : ℤ) : ℚ := env.sin (i * 2 * env.pi / circle)

def cosAllAngle (i : ℤ) : ℚ := env.cos (i * 2 * env.pi / circle)

def getDistanceCorrection (p : Calibration) (azimuth elevation : ℤ) (distance : ℚ)
    (type : DistanceCorrectionType) : ℤ × ℤ × ℚ :=
  if distance ≤ 9 / 100 then (azimuth, elevation, distance)
  else
    let azimuth := (azimuth + circle).tmod circle
    let elevation := (elevation + circle).tmod circle
    let tx := cosAllAngle env elevation * sinAllAngle env azimuth
    let ty := cosAllAngle env elevation * cosAllAngle env azimuth
    let tz := sinAllAngle env elevation
    let c := p.opticalCenter
    let angle (q : ℚ) : ℤ :=
      (truncate (q * kHalfCircleFloat * kFineResolutionFloat / env.pi + circle)).tmod circle
    match type with
    | .geometricCenter =>
      let b := 2 * tx * c.x + 2 * ty * c.y + 2 * tz * c.z
      let cc := c.x * c.x + c.y * c.y + c.z * c.z - distance * distance
      let dOptical := env.sqrt (b * b / 4 - cc) - b / 2
      let x := dOptical * tx + c.x
      let y := dOptical * ty + c.y
      let z := dOptical * tz + c.z
      (angle (env.atan (x / y)), angle (env.asin (z / distance)), distance)
    | .opticalCenter =>
      let x := distance * tx + c.x
      let y := distance * ty + c.y
      let z := distance * tz + c.z
      let dGeometric := env.sqrt (x * x + y * y + z * z)
      (angle (env.atan (x / y)), angle (env.asin (z / dGeometric)), dGeometric)

def transformPoint (p : Calibration) (x y z : ℚ) : ℚ × ℚ × ℚ :=
  let t := p.transform
  let cosa := env.cos t.roll
  let sina := env.sin t.roll
  let cosb := env.cos t.pitch
  let sinb := env.sin t.pitch
  let cosc := env.cos t.yaw
  let sinc := env.sin t.yaw
  (cosb * cosc * x + (sina * sinb * cosc - cosa * sinc) * y + (sina * sinc + cosa * sinb * cosc) * z + t.x,
    cosb * sinc * x + (cosa * cosc + sina * sinb * sinc) * y + (cosa * sinb * sinc - sina * cosc) * z + t.y,
    -sinb * x + sina * cosb * y + cosa * cosb * z + t.z)

section Point

variable {Pt : Type} [Point Pt]

/-- The end of the inner loop of a `ComputeXYZI` that sets the confidence: the field of view test, the coordinates and
the setters. -/
def fillPoint (p : Calibration) (config : LidarDecodeConfig) (data : PointDecodeData)
    (timestamp : UInt64) (distance : ℚ) (azimuth elevation : ℤ) (ring : ℕ) (point : Pt) : Pt :=
  let fovTransfer := (azimuth.tdiv 256).tdiv 100
  if config.fovStart ≠ -1 ∧ config.fovEnd ≠ -1 ∧
      (fovTransfer < config.fovStart ∨ config.fovEnd < fovTransfer) then Point.zeroed
  else
    let xyDistance := distance * cosAllAngle env elevation
    let xyz := p.transformPoint env (xyDistance * sinAllAngle env azimuth)
      (xyDistance * cosAllAngle env azimuth) (distance * sinAllAngle env elevation)
    let point := Point.setX point xyz.1
    let point := Point.setY point xyz.2.1
    let point := Point.setZ point xyz.2.2
    let point := Point.setIntensity point data.reflectivities
    let point := Point.setConfidence point data.confidence
    let point := Point.setTimestamp point (timestamp.toNat / kMicrosecondToSecond)
    Point.setRing point ring

end Point

end Calibration

namespace GeneralParser

/-- The constructor, in zeroed memory. -/
instance : Inhabited GeneralParser where
  default :=
    { toCalibration := default
      enableUpdateMonitorInfo := false
      monitorInfo1 := default
      monitorInfo2 := default
      monitorInfo3 := default
      enablePacketLossTool := false
      enablePacketTimelossTool := false
      packetTimelossToolContinue := false
      totalPacketCount := 0
      seqnumLossMessage := {}
      timeLossMessage := {}
      spinSpeed := 0
      isDualReturn := false
      useAngle := true
      lastAzimuth := 0
      lastLastAzimuth := 0
      rotationFlag := 1
      frameStartAzimuth := 0
      ticks := 0 }

variable (env : Environment)

def getMicroTickCountU64 (p : GeneralParser) : UInt64 := env.clock p.ticks

def getMicroTickCount (p : GeneralParser) : UInt32 := (env.clock p.ticks).toUInt32

def tick (p : GeneralParser) : GeneralParser := { p with ticks := p.ticks + 1 }

def restartLossMessage (packetSeqnum : UInt32) (p : GeneralParser) : GeneralParser :=
  { p.tick with seqnumLossMessage := { p.seqnumLossMessage with
      lossCount := 0, startTime := p.getMicroTickCount env, startSeqnum := packetSeqnum } }

def calPktLoss (packetSeqnum : UInt32) (p : GeneralParser) : GeneralParser :=
  if p.enablePacketLossTool = false then p
  else
    let last := p.seqnumLossMessage.lastSeqnum
    let p := if last < packetSeqnum ∧ last ≠ 0
      then { p with totalPacketCount := p.totalPacketCount + (packetSeqnum - last) } else p
    let p := { p with seqnumLossMessage := { p.seqnumLossMessage with isPacketLoss := false } }
    if p.seqnumLossMessage.startSeqnum = 0 then
      let p := p.restartLossMessage env packetSeqnum
      { p with seqnumLossMessage := { p.seqnumLossMessage with
          totalLossCount := 0, lastSeqnum := packetSeqnum, totalStartSeqnum := packetSeqnum } }
    else
      let p := if 1 < packetSeqnum - last then
          { p with seqnumLossMessage := { p.seqnumLossMessage with
              lossCount := p.seqnumLossMessage.lossCount + (packetSeqnum - last - 1)
              totalLossCount := p.seqnumLossMessage.totalLossCount + (packetSeqnum - last - 1)
              isPacketLoss := true } }
        else p
      let p := if p.seqnumLossMessage.lossCount ≠ 0 then
          if 1000000 ≤ p.getMicroTickCount env - p.seqnumLossMessage.startTime
          then p.tick.restartLossMessage env packetSeqnum else p.tick
        else p
      { p with seqnumLossMessage := { p.seqnumLossMessage with lastSeqnum := packetSeqnum } }

def restartTimeLossMessage (packetTimestamp : UInt64) (p : GeneralParser) : GeneralParser :=
  { p.tick with timeLossMessage := { p.timeLossMessage with
      timelossCount := 0, timelossStartTime := p.getMicroTickCount env, startTimestamp := packetTimestamp } }

def calPktTimeLoss (packetTimestamp : UInt64) (p : GeneralParser) : GeneralParser :=
  if p.enablePacketTimelossTool = false then p
  else if p.packetTimelossToolContinue = false ∧ p.timeLossMessage.totalTimelossCount ≠ 0 then p
  else if p.timeLossMessage.startTimestamp = 0 then
    let p := p.restartTimeLossMessage env packetTimestamp
    { p with timeLossMessage := { p.timeLossMessage with
        totalTimelossCount := 0, lastTimestamp := packetTimestamp, totalStartTimestamp := packetTimestamp } }
  else if p.seqnumLossMessage.isPacketLoss then
    let p := p.restartTimeLossMessage env packetTimestamp
    { p with timeLossMessage := { p.timeLossMessage with
        lastTimestamp := packetTimestamp, lastTotalPackageCount := p.totalPacketCount } }
  else
    let p := if packetTimestamp ≤ p.timeLossMessage.lastTimestamp then
        { p with timeLossMessage := { p.timeLossMessage with
            timelossCount := p.timeLossMessage.timelossCount + 1
            totalTimelossCount := p.timeLossMessage.totalTimelossCount + 1 } }
      else p
    let p := if p.timeLossMessage.timelossCount ≠ 0 then
        if 1000000 ≤ p.getMicroTickCount env - p.timeLossMessage.timelossStartTime then
          let p := p.tick.restartTimeLossMessage env packetTimestamp
          { p with timeLossMessage := { p.timeLossMessage with
              lastTotalPackageCount := p.totalPacketCount } }
        else p.tick
      else p
    { p with timeLossMessage := { p.timeLossMessage with lastTimestamp := packetTimestamp } }

def setFrameAzimuth (frameStartAzimuth : ℚ) (p : GeneralParser) : GeneralParser :=
  { p with frameStartAzimuth := frameStartAzimuth }

def startProduct (p : GeneralParser) : ℚ := roundFloat (p.frameStartAzimuth * kResolutionInt)

def startAzimuth (p : GeneralParser) : ℤ := truncate p.startProduct % 65536

def normalizeFrameStart (p : GeneralParser) : GeneralParser :=
  if p.frameStartAzimuth < 0 ∨ 360 ≤ p.frameStartAzimuth then p.setFrameAzimuth 0 else p

def division (p : GeneralParser) (azimuth : ℤ) : ℤ :=
  let division1 : ℤ := (p.lastAzimuth - p.lastLastAzimuth).natAbs % 65536
  let division2 : ℤ := (p.lastAzimuth - azimuth).natAbs % 65536
  if division2 < division1 then division2 else division1

def crossesStart (p : GeneralParser) (azimuth division : ℤ) : Bool :=
  if p.rotationFlag = 1 then
    if division < p.lastAzimuth - azimuth then
      decide (p.lastAzimuth < p.startAzimuth ∨ p.startProduct ≤ azimuth)
    else decide (p.lastAzimuth < azimuth ∧ p.lastAzimuth < p.startAzimuth ∧ p.startAzimuth ≤ azimuth)
  else
    if division < azimuth - p.lastAzimuth then
      decide (p.startAzimuth ≤ p.lastAzimuth ∨ azimuth < p.startAzimuth)
    else decide (azimuth < p.lastAzimuth ∧ p.startAzimuth < p.lastAzimuth ∧ azimuth ≤ p.startAzimuth)

/-- `IsNeedFrameSplit` of the mechanical lidars, which is the same text in several parsers. -/
def isNeedFrameSplit (u16Azimuth : UInt16) (p : GeneralParser) : GeneralParser × Bool :=
  let azimuth : ℤ := u16Azimuth.toNat
  let p := p.normalizeFrameStart
  if p.lastLastAzimuth = -1 then (p, false)
  else
    let division := p.division azimuth
    if division = 0 then (p, false)
    else
      let p := { p with rotationFlag :=
        if p.lastLastAzimuth - p.lastAzimuth = division ∨ p.lastAzimuth - azimuth = division then -1 else 1 }
      (p, p.crossesStart azimuth division)

def noteAzimuth (u16Azimuth : UInt16) (p : GeneralParser) : GeneralParser :=
  if (u16Azimuth.toNat : ℤ) = p.lastAzimuth then p
  else { p with lastLastAzimuth := p.lastAzimuth, lastAzimuth := u16Azimuth.toNat }

section Frame

variable (p : GeneralParser)

@[simp] lemma tick_calibration : p.tick.toCalibration = p.toCalibration := rfl

/-- `q` is `p` but for what `calPktLoss` keeps. -/
def LossWrites (q : GeneralParser) : Prop := ∃ totalPacketCount seqnumLossMessage ticks, q =
    { p with
      totalPacketCount := totalPacketCount
      seqnumLossMessage := seqnumLossMessage
      ticks := ticks }

def TimeLossWrites (q : GeneralParser) : Prop := ∃ timeLossMessage ticks, q =
    { p with
      timeLossMessage := timeLossMessage
      ticks := ticks }

section Writes

variable {p} {q r : GeneralParser} {c : Prop} [Decidable c] {ticks : ℕ}

lemma LossWrites.refl : p.LossWrites p := ⟨_, _, _, rfl⟩

lemma LossWrites.set {count : UInt32} {message : PacketSeqnumLossMessage} (h : p.LossWrites q) :
    p.LossWrites { q with totalPacketCount := count, seqnumLossMessage := message, ticks := ticks } := by
  obtain ⟨_, _, _, rfl⟩ := h
  exact ⟨_, _, _, rfl⟩

lemma LossWrites.restart {n : UInt32} (h : p.LossWrites q) : p.LossWrites (q.restartLossMessage env n) := h.set

lemma LossWrites.ite (h : p.LossWrites q) (h' : p.LossWrites r) : p.LossWrites (if c then q else r) :=
  iteInduction (fun _ => h) fun _ => h'

lemma TimeLossWrites.refl : p.TimeLossWrites p := ⟨_, _, rfl⟩

lemma TimeLossWrites.set {message : PacketTimeLossMessage} (h : p.TimeLossWrites q) :
    p.TimeLossWrites { q with timeLossMessage := message, ticks := ticks } := by
  obtain ⟨_, _, rfl⟩ := h
  exact ⟨_, _, rfl⟩

lemma TimeLossWrites.restart {t : UInt64} (h : p.TimeLossWrites q) :
    p.TimeLossWrites (q.restartTimeLossMessage env t) := h.set

lemma TimeLossWrites.ite (h : p.TimeLossWrites q) (h' : p.TimeLossWrites r) :
    p.TimeLossWrites (if c then q else r) :=
  iteInduction (fun _ => h) fun _ => h'

end Writes

lemma calPktLoss_frame (n : UInt32) : p.LossWrites (p.calPktLoss env n) := by
  rw [calPktLoss]
  refine .ite .refl (.ite (.set (.restart env ?_)) (.set ?_))
  · exact .set (.ite (.set .refl) .refl)
  · refine .ite (.ite (.restart env (.set ?_)) (.set ?_)) ?_
    all_goals exact .ite (.set (.set (.ite (.set .refl) .refl))) (.set (.ite (.set .refl) .refl))

lemma calPktTimeLoss_frame (t : UInt64) : p.TimeLossWrites (p.calPktTimeLoss env t) := by
  rw [calPktTimeLoss]
  refine .ite .refl (.ite .refl (.ite (.set (.restart env .refl)) ?_))
  refine .ite (.set (.restart env .refl)) (.set ?_)
  refine .ite (.ite (.set (.restart env (.set ?_))) (.set ?_)) ?_
  all_goals exact .ite (.set .refl) .refl

lemma isNeedFrameSplit_frame (azimuth : UInt16) : ∃ frameStartAzimuth rotationFlag, (p.isNeedFrameSplit azimuth).1 =
    { p with
      frameStartAzimuth := frameStartAzimuth
      rotationFlag := rotationFlag } := by
  simp only [isNeedFrameSplit, normalizeFrameStart, setFrameAzimuth]
  split_ifs <;> exact ⟨_, _, rfl⟩

lemma noteAzimuth_frame (azimuth : UInt16) : ∃ lastLastAzimuth lastAzimuth, p.noteAzimuth azimuth =
    { p with
      lastLastAzimuth := lastLastAzimuth
      lastAzimuth := lastAzimuth } := by
  rw [noteAzimuth]
  split_ifs <;> exact ⟨_, _, rfl⟩

@[simp] lemma calPktLoss_calibration (n : UInt32) :
    (p.calPktLoss env n).toCalibration = p.toCalibration := by
  obtain ⟨_, _, _, h⟩ := p.calPktLoss_frame env n
  rw [h]

@[simp] lemma calPktLoss_monitor (n : UInt32) :
    (p.calPktLoss env n).enableUpdateMonitorInfo = p.enableUpdateMonitorInfo := by
  obtain ⟨_, _, _, h⟩ := p.calPktLoss_frame env n
  rw [h]

@[simp] lemma calPktTimeLoss_monitor (t : UInt64) :
    (p.calPktTimeLoss env t).enableUpdateMonitorInfo = p.enableUpdateMonitorInfo := by
  obtain ⟨_, _, h⟩ := p.calPktTimeLoss_frame env t
  rw [h]

def splitState : ℚ × ℤ × ℤ := (p.frameStartAzimuth, p.lastLastAzimuth, p.lastAzimuth)

@[simp] lemma tick_splitState : p.tick.splitState = p.splitState := rfl

@[simp] lemma calPktLoss_splitState (n : UInt32) : (p.calPktLoss env n).splitState = p.splitState := by
  obtain ⟨_, _, _, h⟩ := p.calPktLoss_frame env n
  rw [h]
  rfl

@[simp] lemma calPktTimeLoss_splitState (t : UInt64) :
    (p.calPktTimeLoss env t).splitState = p.splitState := by
  obtain ⟨_, _, h⟩ := p.calPktTimeLoss_frame env t
  rw [h]
  rfl

section Split

variable {p} {q : GeneralParser}

lemma normalizeFrameStart_splitState : p.normalizeFrameStart.splitState =
    (if p.frameStartAzimuth < 0 ∨ 360 ≤ p.frameStartAzimuth then 0 else p.frameStartAzimuth,
      p.lastLastAzimuth, p.lastAzimuth) := by
  rw [normalizeFrameStart, setFrameAzimuth]
  split_ifs <;> rfl

lemma isNeedFrameSplit_congr (azimuth : UInt16) (h : p.splitState = q.splitState) :
    (p.isNeedFrameSplit azimuth).2 = (q.isNeedFrameSplit azimuth).2 := by
  have hn : p.normalizeFrameStart.splitState = q.normalizeFrameStart.splitState := by
    obtain ⟨hs, hll, hl⟩ := Prod.mk.inj h |>.imp_right Prod.mk.inj
    rw [normalizeFrameStart_splitState, normalizeFrameStart_splitState, hs, hll, hl]
  rw [isNeedFrameSplit, isNeedFrameSplit]
  generalize p.normalizeFrameStart = p at hn ⊢
  generalize q.normalizeFrameStart = q at hn ⊢
  obtain ⟨hs, hll, hl⟩ := Prod.mk.inj hn |>.imp_right Prod.mk.inj
  have hd : p.division azimuth.toNat = q.division azimuth.toNat := by
    rw [division, division, hll, hl]
  simp only [hll, hl, hd, crossesStart, startAzimuth, startProduct, hs]
  split_ifs <;> rfl

lemma isNeedFrameSplit_splitState (p : GeneralParser) (h0 : 0 ≤ p.frameStartAzimuth)
    (h360 : p.frameStartAzimuth < 360) (azimuth : UInt16) :
    (p.isNeedFrameSplit azimuth).1.splitState = p.splitState := by
  have hn : p.normalizeFrameStart = p := by
    rw [normalizeFrameStart, if_neg]
    exact not_or.mpr ⟨not_lt.mpr h0, not_le.mpr h360⟩
  simp only [isNeedFrameSplit, hn]
  split_ifs <;> rfl

lemma noteAzimuth_splitState (azimuth : UInt16) : (p.noteAzimuth azimuth).splitState =
    if (azimuth.toNat : ℤ) = p.lastAzimuth then p.splitState
    else (p.frameStartAzimuth, p.lastAzimuth, azimuth.toNat) := by
  rw [noteAzimuth]
  split_ifs <;> rfl

end Split

/-- What the packet loss callback reports and what the next call of `calPktLoss` starts from. -/
def lossCounts : UInt32 × PacketSeqnumLossMessage := (p.totalPacketCount, p.seqnumLossMessage)

@[simp] lemma calPktTimeLoss_lossCounts (t : UInt64) :
    (p.calPktTimeLoss env t).lossCounts = p.lossCounts := by
  obtain ⟨_, _, h⟩ := p.calPktTimeLoss_frame env t
  rw [h]
  rfl

@[simp] lemma isNeedFrameSplit_lossCounts (azimuth : UInt16) :
    (p.isNeedFrameSplit azimuth).1.lossCounts = p.lossCounts := by
  obtain ⟨_, _, h⟩ := p.isNeedFrameSplit_frame azimuth
  rw [h]
  rfl

@[simp] lemma noteAzimuth_lossCounts (azimuth : UInt16) :
    (p.noteAzimuth azimuth).lossCounts = p.lossCounts := by
  obtain ⟨_, _, h⟩ := p.noteAzimuth_frame azimuth
  rw [h]
  rfl

@[simp] lemma calPktTimeLoss_calibration (t : UInt64) :
    (p.calPktTimeLoss env t).toCalibration = p.toCalibration := by
  obtain ⟨_, _, h⟩ := p.calPktTimeLoss_frame env t
  rw [h]

@[simp] lemma isNeedFrameSplit_calibration (azimuth : UInt16) :
    (p.isNeedFrameSplit azimuth).1.toCalibration = p.toCalibration := by
  obtain ⟨_, _, h⟩ := p.isNeedFrameSplit_frame azimuth
  rw [h]

@[simp] lemma noteAzimuth_calibration (azimuth : UInt16) :
    (p.noteAzimuth azimuth).toCalibration = p.toCalibration := by
  obtain ⟨_, _, h⟩ := p.noteAzimuth_frame azimuth
  rw [h]

end Frame

end GeneralParser

end HesaiSdk.Parsing
