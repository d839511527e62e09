import HesaiSdk.Driver.FrameInvariant
import HesaiSdk.Library.Lockstep
import HesaiSdk.UdpParser.PointBlind
import HesaiSdk.UdpParserGpu.UdpParserGpu

/-! The loop of `HesaiLidarSdkGpu`: the points of a frame are computed at its end, all at once. -/

namespace HesaiSdk.Driver

open Library Lidar UdpProtocol Parsing

structure GpuRunState (G σ Pt Fault : Type) where
  main : RunState σ Pt Fault
  gpuParser : UdpParserGpu G

/-- The tests of the loop, which does not wait for `init_finish_`. -/
def DeviceFilter.classifyGpu (device : DeviceFilter) (packetIndex : ℕ) (received : Option UdpPacket) : Admission :=
  match received with
  | none => .skip
  | some packet =>
    if packet.packetLen = kFaultMessageLength then
      if device.deviceFaultPort ≠ 0 ∧ device.fromOther device.deviceFaultPort packet then .skip
      else .fault packet
    else if device.deviceUdpPort ≠ 0 ∧ (packet.isTimeout = false ∨ packetIndex = 0) ∧
        device.fromOther device.deviceUdpPort packet then .skip
    else .decode packet

namespace RunState

variable {σ Pt Fault : Type}

def appendGpu (packet : UdpPacket) (s : RunState σ Pt Fault) : Logged (RunEvent Pt Fault) (RunState σ Pt Fault) := do
  note (.counted (s.count packet).frame.pointsNum)
  pure (s.count packet)

end RunState

namespace GpuRunState

variable {G σ Pt Fault : Type} (env : Environment) (P : Parser σ Pt Fault) (gpu : GeneralParserGpu G Pt)

/-- Nothing comes of a call through the null pointer. -/
def computeFrame (s : GpuRunState G σ Pt Fault) :
    Logged (RunEvent Pt Fault) (Option (GpuRunState G σ Pt Fault)) := do
  note (.compute s.main.frame.packetNum)
  pure ((s.gpuParser.computeXYZI gpu s.main.frame).map fun computed =>
    ⟨{ s.main with frame := { s.main.frame with points := computed.2 } }, some computed.1⟩)

def splitFrame (packet : UdpPacket) (s : GpuRunState G σ Pt Fault) :
    Logged (RunEvent Pt Fault) (Option (GpuRunState G σ Pt Fault)) := do
  match ← computeFrame gpu ⟨s.main.endFrame, s.gpuParser⟩ with
  | none => pure none
  | some ended => do
    note ended.main.publish
    if s.main.frame.packetNum = s.main.packetIndex then pure (some ⟨ended.main.restart, ended.gpuParser⟩)
    else do
      let d ← ended.main.restart.decode env P packet
      let main ← d.2.appendGpu packet
      pure (some ⟨main, ended.gpuParser⟩)

def parsePacket (packet : UdpPacket) (s : GpuRunState G σ Pt Fault) :
    Logged (RunEvent Pt Fault) (Option (GpuRunState G σ Pt Fault)) := do
  let d ← s.main.decode env P packet
  RunState.acceptedIf packet s.main.frame.packetNum d
  if d.1 ≠ 0 then pure (some ⟨d.2, s.gpuParser⟩)
  else if d.2.frame.scanComplete then splitFrame env P gpu packet ⟨d.2, s.gpuParser⟩
  else do
    let main ← (if d.2.frame.packetNum = d.2.packetIndex then pure d.2 else d.2.appendGpu packet)
    let main ← main.overflow
    pure (some ⟨main, s.gpuParser⟩)

def step (device : DeviceFilter) (s : GpuRunState G σ Pt Fault) (received : Option UdpPacket) :
    Logged (RunEvent Pt Fault) (Option (GpuRunState G σ Pt Fault)) :=
  match device.classifyGpu s.main.packetIndex received with
  | .skip => pure (some s)
  | .fault packet => do
    let main ← s.main.parseFault P packet
    pure (some ⟨main, s.gpuParser⟩)
  | .decode packet => parsePacket env P gpu packet s

def stepOn (device : DeviceFilter) (s : Option (GpuRunState G σ Pt Fault)) (received : Option UdpPacket) :
    Logged (RunEvent Pt Fault) (Option (GpuRunState G σ Pt Fault)) :=
  match s with
  | none => pure none
  | some s => step env P gpu device s received

def run (device : DeviceFilter) (received : List (Option UdpPacket)) (s : GpuRunState G σ Pt Fault) :
    Logged (RunEvent Pt Fault) (Option (GpuRunState G σ Pt Fault)) :=
  runs (stepOn env P gpu device) received (some s)

end GpuRunState

/-- The frame apart from its points. -/
def withoutPoints {Pt : Type} (frame : LidarDecodedFrame Pt) : LidarDecodedFrame Unit where
  hostTimestamp := frame.hostTimestamp
  sensorTimestamp := frame.sensorTimestamp
  majorVersion := frame.majorVersion
  minorVersion := frame.minorVersion
  returnMode := frame.returnMode
  spinSpeed := frame.spinSpeed
  pointsNum := frame.pointsNum
  packetNum := frame.packetNum
  points := fun _ => ()
  pointData := frame.pointData
  blockNum := frame.blockNum
  laserNum := frame.laserNum
  perPointsNum := frame.perPointsNum
  scanComplete := frame.scanComplete
  distanceUnit := frame.distanceUnit
  frameIndex := frame.frameIndex
  lidarState := frame.lidarState
  workMode := frame.workMode
  useTimestampType := frame.useTimestampType
  config := frame.config

section Lockstep

variable {G σ Pt Fault : Type}

/-- What a caller of the driver notices, apart from the points. -/
def RunEvent.outcome : RunEvent Pt Fault → Option (RunEvent Unit Fault)
  | .access _ => none
  | .compute _ => none
  | .counted pointsNum => some (.counted pointsNum)
  | .accepted packet => some (.accepted packet)
  | .published frame packets => some (.published (withoutPoints frame) packets)
  | .dropped packets => some (.dropped packets)
  | .overflow packets => some (.overflow packets)
  | .faultMessage info => some (.faultMessage info)

namespace RunState

def Twin (s t : RunState σ Pt Fault) : Prop := ∃ points, s = { t with frame := { t.frame with points := points } }

abbrev Alike {α β : Type} (R : α → β → Prop) (x : Logged (RunEvent Pt Fault) α) (y : Logged (RunEvent Pt Fault) β) :
    Prop :=
  Agree RunEvent.outcome RunEvent.outcome R x y

variable {env : Environment} {P : Parser σ Pt Fault} {s t : RunState σ Pt Fault} {packet : UdpPacket}

lemma outcome_relabel {α : Type} {x : Logged DecodeEvent α} :
    ∀ e ∈ (relabel RunEvent.access x : Logged (RunEvent Pt Fault) α).log, e.outcome = none := by
  intro e he
  rw [log_relabel] at he
  obtain ⟨_, _, rfl⟩ := List.mem_map.mp he
  rfl

lemma Twin.decode (hP : PointBlind P) (h : Twin s t) :
    Alike (fun d e => d.1 = e.1 ∧ Twin d.2 e.2) (s.decode env P packet) (t.decode env P packet) := by
  obtain ⟨points, rfl⟩ := h
  have hdecode := UdpParser.ignoresPoints hP env t.udpParser packet t.frame points
  constructor
  · rw [decode_val, decode_val]
    dsimp only at hdecode ⊢
    rw [hdecode]
    exact ⟨rfl, points, rfl⟩
  · have hsilent (r : RunState σ Pt Fault) : (r.decode env P packet).log.filterMap RunEvent.outcome = [] := by
      rw [decode_log, List.filterMap_eq_nil_iff]
      exact outcome_relabel
    rw [hsilent, hsilent]

lemma Twin.append (h : Twin s t) : Alike Twin (s.append P packet) (t.appendGpu packet) := by
  obtain ⟨points, rfl⟩ := h
  rw [RunState.append]
  refine .bind_left (fun e he => ?_) (.bind (.note rfl) fun _ _ _ => .pure ⟨_, rfl⟩)
  rw [compute, log_bind, log_note, log_bind, log_pure, List.append_nil] at he
  rcases List.mem_append.mp he with he | he
  · obtain rfl := List.mem_singleton.mp he
    rfl
  · exact outcome_relabel e he

lemma Twin.overflow (h : Twin s t) : Alike Twin s.overflow t.overflow := by
  obtain ⟨points, rfl⟩ := h
  rw [RunState.overflow, RunState.overflow]
  split_ifs
  · exact .bind (.note rfl) fun _ _ _ => .pure ⟨points, rfl⟩
  · exact .pure ⟨points, rfl⟩

lemma Twin.publish (h : Twin s t) : s.publish.outcome = t.publish.outcome := by
  obtain ⟨points, rfl⟩ := h
  rw [RunState.publish, RunState.publish]
  split_ifs
  · rfl
  · rfl

lemma Twin.acceptedIf {before : ℕ} {d e : ℤ × RunState σ Pt Fault} (hret : d.1 = e.1) (h : Twin d.2 e.2) :
    Alike (fun _ _ => True) (RunState.acceptedIf packet before d) (RunState.acceptedIf packet before e) := by
  obtain ⟨points, hpoints⟩ := h
  rw [RunState.acceptedIf, RunState.acceptedIf, hret, hpoints]
  split_ifs
  · exact .note rfl
  · exact .pure trivial

lemma Twin.parseFault (h : Twin s t) : Alike Twin (s.parseFault P packet) (t.parseFault P packet) := by
  obtain ⟨points, rfl⟩ := h
  rw [RunState.parseFault, RunState.parseFault]
  dsimp only
  generalize t.udpParser.parserFaultMessage P packet t.faultMessageInfo = r
  have hmain : Twin { t with
      frame := { t.frame with points := points }
      faultMessageInfo := r.2 } { t with faultMessageInfo := r.2 } := ⟨points, rfl⟩
  split_ifs
  · exact .bind (.note rfl) fun _ _ _ => .pure hmain
  · exact .pure hmain

end RunState

namespace GpuRunState

open RunState

variable {env : Environment} {P : Parser σ Pt Fault} {gpu : GeneralParserGpu G Pt} {device : DeviceFilter}
  {s : RunState σ Pt Fault} {t : GpuRunState G σ Pt Fault} {packet : UdpPacket} {received : Option UdpPacket}

/-- The points came from the device, in one computation over the whole frame. -/
def Computed (gpu : GeneralParserGpu G Pt) : RunEvent Pt Fault → Prop
  | .published frame _ => ∃ p points, frame.points = (gpu.computeXYZI p { frame with points := points }).2
  | _ => True

end GpuRunState

end Lockstep

section Results

variable {G Pt Fault : Type}

end Results

end HesaiSdk.Driver
