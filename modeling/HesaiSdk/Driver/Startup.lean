import HesaiSdk.Container.BlockingRing
import HesaiSdk.Driver.Isolation
import HesaiSdk.Library.Channel

/-! The threads of `HesaiLidarSdk`: the receive thread, `Init_thread`, the caller of `Start` and the thread of `Run`.
The receive thread is the one that `SetThreadNum` creates before the loop of `Init`. -/

namespace HesaiSdk.Driver

open Container Library Library.Transition Lidar UdpProtocol Parsing

inductive LidarInitFinishStatus where
  | faultMessParse
  | ptcInitFinish
  | pointCloudParse
  | allInitFinish
deriving DecidableEq

inductive SourceType where
  | dataFromLidar
  | dataFromPcap
  | dataFromRosPacket
deriving DecidableEq

/-- `Init_thread` once there is a parser: each setter and loader is one, and each flag of `init_finish_`. -/
inductive InitStep (σ : Type) where
  | set (setting : UdpParser σ → UdpParser σ)
  | finish (status : LidarInitFinishStatus)

namespace InitStep

variable {σ : Type}

def apply (u : UdpParser σ) : InitStep σ → UdpParser σ
  | set setting => setting u
  | finish _ => u

def IsSet : InitStep σ → Prop
  | set _ => True
  | finish _ => False

/-- The parser at the end of these steps. -/
def settled (todo : List (InitStep σ)) (u : UdpParser σ) : UdpParser σ := todo.foldl apply u

lemma settled_cons (step : InitStep σ) (todo : List (InitStep σ)) (u : UdpParser σ) :
    settled (step :: todo) u = settled todo (step.apply u) := rfl

lemma settled_concat (done : List (InitStep σ)) (step : InitStep σ) (u : UdpParser σ) :
    settled (done ++ [step]) u = step.apply (settled done u) := List.foldl_append

lemma settled_of_finished {todo : List (InitStep σ)} (h : ∀ step ∈ todo, ¬step.IsSet) (u : UdpParser σ) :
    settled todo u = u := by
  induction todo with
  | nil => rfl
  | cons step todo ih =>
    cases step with
    | set setting => exact absurd trivial (h _ List.mem_cons_self)
    | finish status => exact ih fun step hstep => h step (List.mem_cons_of_mem _ hstep)

end InitStep

/-- What the threads start from: the parameters, and the memory of the frame and of the message. -/
structure StartParam (σ Pt Fault : Type) where
  sourceType : SourceType
  basicSettings : List (UdpParser σ → UdpParser σ)
  decoderSettings : List (UdpParser σ → UdpParser σ)
  useTimestampType : ℕ
  config : LidarDecodeConfig
  sensorTimestamp : ℕ → UInt64
  points : ℕ → Pt
  pointData : ℕ → PointDecodeData
  faultMessageInfo : Fault

namespace StartParam

variable {σ Pt Fault : Type} (param : StartParam σ Pt Fault)

def program : List (InitStep σ) :=
  param.basicSettings.map .set ++ .finish .faultMessParse ::
    (param.decoderSettings.map .set ++ [.finish .pointCloudParse, .finish .allInitFinish])

/-- The first lines of `Run`. -/
def settle (frame : LidarDecodedFrame Pt) : LidarDecodedFrame Pt :=
  { frame with useTimestampType := param.useTimestampType, config := param.config }

def setup : Setup σ Pt Fault where
  sensorTimestamp := param.sensorTimestamp
  points := param.points
  pointData := param.pointData
  faultMessageInfo := param.faultMessageInfo
  settings := InitStep.settled param.program
  frameSettings := param.settle

end StartParam

/-- The loop of `Init` with its `udp_packet`, and what is left after it. -/
inductive InitThread (σ : Type) where
  | detecting (fetched : Option UdpPacket)
  | finishing (todo : List (InitStep σ))

/-- The local variables of `Run`. -/
structure RunThread (Fault : Type) where
  fetched : Option UdpPacket
  udpPacketFrame : List UdpPacket
  packetIndex : ℕ
  faultMessageInfo : Fault

lemma decodePacket_new_log {σ Pt Fault : Type} (env : Environment) (P : Parser σ Pt Fault)
    (frame : LidarDecodedFrame Pt) (packet : UdpPacket) :
    ((UdpParser.new : UdpParser σ).decodePacket env P frame packet).log = [] := by
  rw [UdpParser.decodePacket]
  split_ifs <;> rfl

/-- What the threads share, the threads, and beside them the results that the receive thread has worked off and what
the consumers have done. -/
structure SdkThreads (σ Pt Fault : Type) where
  received : Option SocketResult
  isTimeout : Bool
  originPacketsBuffer : BlockingRing UdpPacket kPacketBufferSize
  init : InitThread σ
  initFinish : LidarInitFinishStatus → Bool
  udpParser : UdpParser σ
  frame : LidarDecodedFrame Pt
  running : Option (RunThread Fault)
  arrived : List SocketResult
  log : List (RunEvent Pt Fault)

inductive SdkAction where
  | receive (result : SocketResult)
  | store
  | initFetch (timeout : Bool)
  | initDecode
  | initStep
  | startRun
  | runFetch (timeout : Bool)
  | runTurn

namespace SdkThreads

variable {σ Pt Fault : Type} (env : Environment) (P : Parser σ Pt Fault) (device : DeviceFilter)
  (param : StartParam σ Pt Fault)

lemma kPacketBufferSize_pos : 0 < kPacketBufferSize := by decide

def start : SdkThreads σ Pt Fault where
  received := none
  isTimeout := false
  originPacketsBuffer := .start kPacketBufferSize_pos fun _ => default
  init := .detecting none
  initFinish _ := false
  udpParser := .new
  frame := .new param.sensorTimestamp param.points param.pointData
  running := none
  arrived := []
  log := []

/-- The switch over `len`, behind the wait until the buffer is not full. -/
def store (s : SdkThreads σ Pt Fault) : Option (SdkThreads σ Pt Fault) := do
  let result ← s.received
  let switched := result.reception.switched s.isTimeout
  let stored := { s with
    received := none
    isTimeout := switched.isTimeout
    arrived := s.arrived ++ [result] }
  if s.originPacketsBuffer.ring.notFull = false then none
  else if switched.emplaced
  then (s.originPacketsBuffer.push switched.packet).map fun buffer => { stored with originPacketsBuffer := buffer }
  else some stored

/-- `DecodePacket` in the loop of `Init`, and the test of the loop. -/
def initDecode (s : SdkThreads σ Pt Fault) (packet : UdpPacket) : SdkThreads σ Pt Fault :=
  let d := relabel RunEvent.access (s.udpParser.decodePacket env P s.frame packet)
  let decoded := { s with udpParser := d.val.parser, log := s.log ++ d.log }
  if d.val.parser.parser.isSome
  then { decoded with init := .finishing param.program, frame := { d.val.frame with packetNum := 0 } }
  else { decoded with init := .detecting none, frame := d.val.frame }

def initStep (s : SdkThreads σ Pt Fault) (todo : List (InitStep σ)) : InitStep σ → SdkThreads σ Pt Fault
  | .set setting => { s with init := .finishing todo, udpParser := setting s.udpParser }
  | .finish status => { s with init := .finishing todo, initFinish := Function.update s.initFinish status true }

def MayStart (s : SdkThreads σ Pt Fault) : Prop :=
  param.sourceType = .dataFromLidar ∧ s.initFinish .faultMessParse = true ∨ s.initFinish .allInitFinish = true

instance (s : SdkThreads σ Pt Fault) : Decidable (MayStart param s) := inferInstanceAs (Decidable (_ ∨ _))

def runState (s : SdkThreads σ Pt Fault) (r : RunThread Fault) : RunState σ Pt Fault :=
  ⟨s.udpParser, s.frame, r.udpPacketFrame, r.packetIndex, r.faultMessageInfo⟩

/-- The body of the loop of `Run` behind `GetOnePacket`. -/
def runTurn (s : SdkThreads σ Pt Fault) (r : RunThread Fault) (packet : UdpPacket) : SdkThreads σ Pt Fault :=
  let turn := (s.runState r).step env P device ⟨some packet, s.initFinish .pointCloudParse⟩
  { s with
    udpParser := turn.val.udpParser
    frame := turn.val.frame
    running := some ⟨none, turn.val.udpPacketFrame, turn.val.packetIndex, turn.val.faultMessageInfo⟩
    log := s.log ++ turn.log }

def step (s : SdkThreads σ Pt Fault) : SdkAction → Option (SdkThreads σ Pt Fault)
  | .receive result =>
    if s.received.isSome then none
    else some { s with received := if result.reception.isError then none else some result }
  | .store => s.store
  | .initFetch timeout =>
    match s.init with
    | .detecting none => (s.originPacketsBuffer.tryPopFront timeout).map fun popped =>
        { s with init := .detecting popped.1, originPacketsBuffer := popped.2 }
    | _ => none
  | .initDecode =>
    match s.init with
    | .detecting (some packet) => some (s.initDecode env P param packet)
    | _ => none
  | .initStep =>
    match s.init with
    | .finishing (step :: todo) => some (s.initStep todo step)
    | _ => none
  | .startRun =>
    if s.running.isNone ∧ MayStart param s
    then some { s with
      frame := param.settle s.frame
      running := some ⟨none, [], 0, param.faultMessageInfo⟩ }
    else none
  | .runFetch timeout =>
    match s.running with
    | some ⟨none, udpPacketFrame, packetIndex, info⟩ =>
      (s.originPacketsBuffer.tryPopFront timeout).map fun popped =>
        { s with
          running := some ⟨popped.1, udpPacketFrame, packetIndex, info⟩
          originPacketsBuffer := popped.2 }
    | _ => none
  | .runTurn =>
    match s.running with
    | some ⟨some packet, udpPacketFrame, packetIndex, info⟩ =>
      some (s.runTurn env P device ⟨some packet, udpPacketFrame, packetIndex, info⟩ packet)
    | _ => none

section Cases

variable {env P device param} {s t : SdkThreads σ Pt Fault} {timeout : Bool}

lemma receive_eq {result : SocketResult} (h : s.step env P device param (.receive result) = some t) :
    t = { s with received := if result.reception.isError then none else some result } := by
  rw [step] at h
  split at h
  · cases h
  · exact (Option.some.inj h).symm

lemma store_eq (h : s.step env P device param .store = some t) : ∃ result, s.received = some result ∧
    let switched := result.reception.switched s.isTimeout
    let stored := { s with
      received := none
      isTimeout := switched.isTimeout
      arrived := s.arrived ++ [result] }
    switched.emplaced = true ∧ (∃ buffer, s.originPacketsBuffer.push switched.packet = some buffer ∧
      t = { stored with originPacketsBuffer := buffer }) ∨ switched.emplaced = false ∧ t = stored := by
  obtain ⟨result, hreceived, h⟩ := Option.bind_eq_some_iff.mp h
  refine ⟨result, hreceived, ?_⟩
  dsimp only at h ⊢
  split_ifs at h with hfull hemplaced
  · obtain ⟨buffer, hbuffer, rfl⟩ := Option.map_eq_some_iff.mp h
    exact Or.inl ⟨hemplaced, buffer, hbuffer, rfl⟩
  · exact Or.inr ⟨Bool.eq_false_iff.mpr hemplaced, (Option.some.inj h).symm⟩

lemma initFetch_eq (h : s.step env P device param (.initFetch timeout) = some t) : s.init = .detecting none ∧
    ∃ value buffer, s.originPacketsBuffer.tryPopFront timeout = some (value, buffer) ∧
      t = { s with init := .detecting value, originPacketsBuffer := buffer } := by
  simp only [step] at h
  split at h
  next hinit =>
    obtain ⟨⟨value, buffer⟩, hpop, rfl⟩ := Option.map_eq_some_iff.mp h
    exact ⟨hinit, value, buffer, hpop, rfl⟩
  next => cases h

lemma initDecode_eq (h : s.step env P device param .initDecode = some t) :
    ∃ packet, s.init = .detecting (some packet) ∧ t = s.initDecode env P param packet := by
  simp only [step] at h
  split at h
  next packet hinit => exact ⟨packet, hinit, (Option.some.inj h).symm⟩
  next => cases h

lemma initStep_eq (h : s.step env P device param .initStep = some t) :
    ∃ step todo, s.init = .finishing (step :: todo) ∧ t = s.initStep todo step := by
  simp only [SdkThreads.step] at h
  split at h
  next step todo hinit => exact ⟨step, todo, hinit, (Option.some.inj h).symm⟩
  next => cases h

lemma startRun_eq (h : s.step env P device param .startRun = some t) : s.running = none ∧ MayStart param s ∧
    t = { s with
      frame := param.settle s.frame
      running := some ⟨none, [], 0, param.faultMessageInfo⟩ } := by
  simp only [step] at h
  split_ifs at h with hstart
  exact ⟨Option.isNone_iff_eq_none.mp hstart.1, hstart.2, (Option.some.inj h).symm⟩

lemma runFetch_eq (h : s.step env P device param (.runFetch timeout) = some t) :
    ∃ r value buffer, s.running = some r ∧ r.fetched = none ∧
      s.originPacketsBuffer.tryPopFront timeout = some (value, buffer) ∧
      t = { s with running := some { r with fetched := value }, originPacketsBuffer := buffer } := by
  simp only [step] at h
  split at h
  next udpPacketFrame packetIndex info hrunning =>
    obtain ⟨⟨value, buffer⟩, hpop, rfl⟩ := Option.map_eq_some_iff.mp h
    exact ⟨_, value, buffer, hrunning, rfl, hpop, rfl⟩
  next => cases h

lemma runTurn_eq (h : s.step env P device param .runTurn = some t) :
    ∃ r packet, s.running = some r ∧ r.fetched = some packet ∧ t = s.runTurn env P device r packet := by
  simp only [step] at h
  split at h
  next packet udpPacketFrame packetIndex info hrunning =>
    exact ⟨_, packet, hrunning, rfl, (Option.some.inj h).symm⟩
  next => cases h

lemma initDecode_of_none {packet : UdpPacket}
    (h : (s.udpParser.decodePacket env P s.frame packet).val.parser.parser.isSome = false) :
    s.initDecode env P param packet = { s with
      init := .detecting none
      udpParser := (s.udpParser.decodePacket env P s.frame packet).val.parser
      frame := (s.udpParser.decodePacket env P s.frame packet).val.frame
      log := s.log ++ (relabel .access (s.udpParser.decodePacket env P s.frame packet)).log } :=
  if_neg (Bool.eq_false_iff.mp h)

lemma initDecode_of_some {packet : UdpPacket}
    (h : (s.udpParser.decodePacket env P s.frame packet).val.parser.parser.isSome = true) :
    s.initDecode env P param packet = { s with
      init := .finishing param.program
      udpParser := (s.udpParser.decodePacket env P s.frame packet).val.parser
      frame := { (s.udpParser.decodePacket env P s.frame packet).val.frame with packetNum := 0 }
      log := s.log ++ (relabel .access (s.udpParser.decodePacket env P s.frame packet)).log } :=
  if_pos h

end Cases

section Progress

variable {device param} {s t : SdkThreads σ Pt Fault}

/-- How far `Init_thread` has come. -/
def Progress (param : StartParam σ Pt Fault) (s : SdkThreads σ Pt Fault) : Prop :=
  match s.init with
  | .detecting _ => ∀ status, s.initFinish status = false
  | .finishing todo => ∃ done, param.program = done ++ todo ∧
      ∀ status, s.initFinish status = true ↔ .finish status ∈ done

lemma mem_program {setting : UdpParser σ → UdpParser σ} (h : .set setting ∈ param.program) :
    setting ∈ param.basicSettings ++ param.decoderSettings := by
  simp only [StartParam.program, List.mem_append, List.mem_map, List.mem_cons, InitStep.set.injEq, exists_eq_right,
    reduceCtorEq, false_or, or_false, List.not_mem_nil] at h
  exact List.mem_append.mpr h

/-- What is behind a step that occurs once. -/
lemma suffix_of_mem {α : Type} {before behind done todo : List α} {x : α} (h : before ++ x :: behind = done ++ todo)
    (hbefore : x ∉ before) (hdone : x ∈ done) : todo <:+ behind := by
  rcases List.append_eq_append_iff.mp h with ⟨middle, rfl, hrest⟩ | ⟨middle, rfl, hrest⟩
  · rcases List.mem_append.mp hdone with hx | hx
    · exact absurd hx hbefore
    · cases middle with
      | nil => cases hx
      | cons y middle =>
        obtain ⟨-, hbehind⟩ := List.cons.inj hrest
        exact ⟨middle, hbehind.symm⟩
  · exact absurd (List.mem_append_left middle hdone) hbefore

/-- The flag is set behind all setters. -/
lemma finished_of_pointCloudParse {done todo : List (InitStep σ)} (hprogram : param.program = done ++ todo)
    (h : .finish .pointCloudParse ∈ done) : ∀ step ∈ todo, ¬step.IsSet := by
  have hbefore : .finish .pointCloudParse ∉ param.basicSettings.map InitStep.set ++ .finish .faultMessParse ::
      param.decoderSettings.map .set := by
    simp
  rw [StartParam.program, ← List.cons_append, ← List.append_assoc] at hprogram
  have hsuffix := suffix_of_mem hprogram hbefore h
  intro step hstep
  obtain rfl := List.mem_singleton.mp (hsuffix.subset hstep)
  exact not_false

lemma finished_of_allInitFinish {done todo : List (InitStep σ)} (hprogram : param.program = done ++ todo)
    (h : .finish .allInitFinish ∈ done) : todo = [] := by
  have hbefore : .finish .allInitFinish ∉ param.basicSettings.map InitStep.set ++ .finish .faultMessParse ::
      (param.decoderSettings.map .set ++ [.finish .pointCloudParse]) := by
    simp
  have hsplit : param.program = (param.basicSettings.map InitStep.set ++ .finish .faultMessParse ::
      (param.decoderSettings.map .set ++ [.finish .pointCloudParse])) ++ [.finish .allInitFinish] := by
    simp [StartParam.program]
  rw [hsplit] at hprogram
  exact List.suffix_nil.mp (suffix_of_mem hprogram hbefore h)

lemma Progress.finishing (h : s.Progress param) {status : LidarInitFinishStatus} (hset : s.initFinish status = true) :
    ∃ todo, s.init = .finishing todo := by
  rw [Progress] at h
  cases hinit : s.init with
  | detecting fetched =>
    rw [hinit] at h
    rw [h status] at hset
    cases hset
  | finishing todo => exact ⟨todo, rfl⟩

variable (device) in
lemma classify_waiting (packetIndex : ℕ) (fetched : Option UdpPacket) :
    device.classify packetIndex ⟨fetched, false⟩ = .skip ∨
      ∃ packet, device.classify packetIndex ⟨fetched, false⟩ = .fault packet := by
  cases fetched with
  | none => exact Or.inl rfl
  | some packet =>
    simp only [DeviceFilter.classify, if_true]
    split_ifs
    · exact Or.inl rfl
    · exact Or.inr ⟨packet, rfl⟩
    · exact Or.inl rfl

end Progress

section Waiting

variable {env P device param} {s t : SdkThreads σ Pt Fault}

/-- What holds of the threads until the flag `PointCloudParse` is set, and of when there is a thread of `Run`. -/
structure Started (P : Parser σ Pt Fault) (param : StartParam σ Pt Fault) (s : SdkThreads σ Pt Fault) : Prop where
  progress : s.Progress param
  fresh : ∀ fetched, s.init = .detecting fetched → s.udpParser = .new ∧ s.running = none
  begun : s.running.isSome → s.initFinish .faultMessParse = true
  replay : param.sourceType ≠ .dataFromLidar → s.running.isSome → s.init = .finishing []
  silent : s.initFinish .pointCloudParse = false → ∀ event ∈ s.log, ∃ info, event = .faultMessage info
  idle : s.initFinish .pointCloudParse = false → ∀ r ∈ s.running, r.udpPacketFrame = [] ∧ r.packetIndex = 0
  configured : s.initFinish .pointCloudParse = false → ∀ todo, s.init = .finishing todo →
    ∃ type done, param.program = done ++ todo ∧
      s.udpParser = InitStep.settled done { (UdpParser.new : UdpParser σ) with parser := some (P.new type) }

lemma start_started : (start param).Started P param where
  progress _ := rfl
  fresh _ _ := ⟨rfl, rfl⟩
  begun h := absurd h Bool.false_ne_true
  replay _ h := absurd h Bool.false_ne_true
  silent _ := nofun
  idle _ := nofun
  configured _ := nofun

lemma Started.initDecode (hs : s.Started P param) (h : s.step env P device param .initDecode = some t) :
    t.Started P param := by
  obtain ⟨packet, hinit, rfl⟩ := initDecode_eq h
  obtain ⟨hnew, hrunning⟩ := hs.fresh _ hinit
  have hprogress := hs.progress
  rw [Progress, hinit] at hprogress
  have hparser := decodePacket_new env P s.frame packet
  have hlog : (relabel (RunEvent.access : _ → RunEvent Pt Fault)
      (s.udpParser.decodePacket env P s.frame packet)).log = [] := by
    rw [log_relabel, hnew, decodePacket_new_log, List.map_nil]
  rw [← hnew] at hparser
  cases hdetect : detect env packet with
  | none =>
    rw [hdetect] at hparser
    rw [initDecode_of_none (by rw [hparser]; rfl), hlog, List.append_nil]
    refine ⟨hprogress, fun _ _ => ⟨?_, hrunning⟩, hs.begun, fun _ hrun => ?_, hs.silent, hs.idle, nofun⟩
    · rw [hparser, hnew]
      rfl
    · rw [hrunning] at hrun
      cases hrun
  | some type =>
    rw [hdetect] at hparser
    rw [initDecode_of_some (by rw [hparser]; rfl), hlog, List.append_nil]
    refine ⟨⟨[], rfl, fun status => ?_⟩, nofun, hs.begun, fun _ hrun => ?_, hs.silent, hs.idle,
      fun _ todo hfinishing => ?_⟩
    · simp [hprogress status]
    · rw [hrunning] at hrun
      cases hrun
    · obtain rfl := InitThread.finishing.inj hfinishing
      refine ⟨type, [], rfl, ?_⟩
      rw [hparser, hnew]
      rfl

lemma Started.initStep (hs : s.Started P param) (h : s.step env P device param .initStep = some t) :
    t.Started P param := by
  obtain ⟨step, todo, hinit, rfl⟩ := initStep_eq h
  have hprogress := hs.progress
  rw [Progress, hinit] at hprogress
  obtain ⟨done, hprogram, hflags⟩ := hprogress
  have hprogram' : param.program = (done ++ [step]) ++ todo := by rw [hprogram, List.append_assoc, List.singleton_append]
  have hreplay : param.sourceType ≠ .dataFromLidar → s.running.isSome → InitThread.finishing todo = .finishing [] := by
    intro hsource hrun
    have hnil := hs.replay hsource hrun
    rw [hinit] at hnil
    cases hnil
  cases step with
  | set setting =>
    refine ⟨⟨_, hprogram', fun status => ?_⟩, nofun, hs.begun, hreplay, hs.silent, hs.idle,
      fun hwaiting todo' hfinishing => ?_⟩
    · simp [SdkThreads.initStep, hflags status]
    · obtain rfl := InitThread.finishing.inj hfinishing
      obtain ⟨type, before, hbefore, hparser⟩ := hs.configured hwaiting _ hinit
      refine ⟨type, before ++ [.set setting], by rw [hbefore, List.append_assoc, List.singleton_append], ?_⟩
      rw [InitStep.settled_concat, ← hparser]
      rfl
  | finish finished =>
    have hearlier (status : LidarInitFinishStatus)
        (h : Function.update s.initFinish finished true status = false) : s.initFinish status = false := by
      rcases eq_or_ne status finished with rfl | hne
      · rw [Function.update_self] at h
        cases h
      · rwa [Function.update_of_ne hne] at h
    refine ⟨⟨_, hprogram', fun status => ?_⟩, nofun, fun hrun => ?_, hreplay,
      fun hwaiting => hs.silent (hearlier _ hwaiting), fun hwaiting => hs.idle (hearlier _ hwaiting),
      fun hwaiting todo' hfinishing => ?_⟩
    · rcases eq_or_ne status finished with rfl | hne
      · simp [SdkThreads.initStep]
      · simp [SdkThreads.initStep, hflags status, hne]
    · rcases eq_or_ne LidarInitFinishStatus.faultMessParse finished with rfl | hne
      · simp [SdkThreads.initStep]
      · exact (Function.update_of_ne hne _ s.initFinish).trans (hs.begun hrun)
    · obtain rfl := InitThread.finishing.inj hfinishing
      obtain ⟨type, before, hbefore, hparser⟩ := hs.configured (hearlier _ hwaiting) _ hinit
      refine ⟨type, before ++ [.finish finished], by rw [hbefore, List.append_assoc, List.singleton_append], ?_⟩
      rw [InitStep.settled_concat, ← hparser]
      rfl

lemma Started.startRun (hs : s.Started P param) (h : s.step env P device param .startRun = some t) :
    t.Started P param := by
  obtain ⟨hrunning, hmay, rfl⟩ := startRun_eq h
  have hprogress := hs.progress
  obtain ⟨todo, hinit⟩ : ∃ todo, s.init = .finishing todo := by
    rcases hmay with ⟨-, hset⟩ | hset
    · exact hprogress.finishing hset
    · exact hprogress.finishing hset
  have hprogress' := hprogress
  rw [Progress, hinit] at hprogress'
  obtain ⟨done, hprogram, hflags⟩ := hprogress'
  refine ⟨hprogress, fun _ hdetecting => ?_, fun _ => ?_, fun hsource _ => ?_, hs.silent, fun _ => ?_, hs.configured⟩
  · rw [show s.init = _ from hdetecting] at hinit
    cases hinit
  · rcases hmay with ⟨-, hset⟩ | hset
    · exact hset
    · obtain rfl := finished_of_allInitFinish hprogram ((hflags _).mp hset)
      rw [List.append_nil] at hprogram
      refine (hflags _).mpr (hprogram ▸ ?_)
      simp [StartParam.program]
  · have hset : s.initFinish .allInitFinish = true := hmay.resolve_left fun hlidar => hsource hlidar.1
    exact hinit.trans (congrArg _ (finished_of_allInitFinish hprogram ((hflags _).mp hset)))
  · rintro _ ⟨⟩
    exact ⟨rfl, rfl⟩

lemma Started.runFetch {timeout : Bool} (hs : s.Started P param)
    (h : s.step env P device param (.runFetch timeout) = some t) : t.Started P param := by
  obtain ⟨r, value, buffer, hrunning, -, -, rfl⟩ := runFetch_eq h
  have hrun : s.running.isSome := by rw [hrunning]; rfl
  refine ⟨hs.progress, fun fetched hdetecting => ?_, fun _ => hs.begun hrun, fun hsource _ => hs.replay hsource hrun,
    hs.silent, fun hwaiting => ?_, hs.configured⟩
  · obtain ⟨-, hnone⟩ := hs.fresh fetched hdetecting
    rw [hrunning] at hnone
    cases hnone
  · rintro _ ⟨⟩
    exact hs.idle hwaiting r hrunning

variable (env P device) in
/-- `Run` does nothing but parse fault messages before the flag. -/
lemma runTurn_waiting (r : RunThread Fault) (packet : UdpPacket) (hwaiting : s.initFinish .pointCloudParse = false) :
    (s.runTurn env P device r packet).udpParser = s.udpParser ∧ (s.runTurn env P device r packet).frame = s.frame ∧
      (∃ info, (s.runTurn env P device r packet).running = some ⟨none, r.udpPacketFrame, r.packetIndex, info⟩) ∧
      ∃ events, (s.runTurn env P device r packet).log = s.log ++ events ∧
        ∀ event ∈ events, ∃ info, event = .faultMessage info := by
  rw [runTurn, hwaiting]
  rcases classify_waiting device (s.runState r).packetIndex (some packet) with hskip | ⟨fault, hfault⟩
  · simp only [RunState.step, hskip, val_pure, log_pure]
    exact ⟨rfl, rfl, ⟨_, rfl⟩, [], rfl, fun _ hevent => absurd hevent List.not_mem_nil⟩
  · simp only [RunState.step, hfault, RunState.parseFault]
    split_ifs
    · refine ⟨rfl, rfl, ⟨_, rfl⟩, _, rfl, ?_⟩
      simp
    · exact ⟨rfl, rfl, ⟨_, rfl⟩, [], rfl, fun _ hevent => absurd hevent List.not_mem_nil⟩

lemma Started.runTurn (hs : s.Started P param) (h : s.step env P device param .runTurn = some t) :
    t.Started P param := by
  obtain ⟨r, packet, hrunning, -, rfl⟩ := runTurn_eq h
  have hturn (hwaiting : s.initFinish .pointCloudParse = false) :=
    runTurn_waiting env P device r packet hwaiting
  have hrun : s.running.isSome := by rw [hrunning]; rfl
  refine ⟨hs.progress, fun fetched hdetecting => ?_, fun _ => hs.begun hrun, fun hsource _ => hs.replay hsource hrun,
    fun hwaiting => ?_, fun hwaiting => ?_, fun hwaiting todo hfinishing => ?_⟩
  · obtain ⟨-, hnone⟩ := hs.fresh fetched hdetecting
    rw [hrunning] at hnone
    cases hnone
  · obtain ⟨-, -, -, events, hlog, hevents⟩ := hturn hwaiting
    rw [hlog]
    intro event hevent
    rcases List.mem_append.mp hevent with hold | hnew
    · exact hs.silent hwaiting event hold
    · exact hevents event hnew
  · obtain ⟨-, -, ⟨info, hrun⟩, -⟩ := hturn hwaiting
    rw [hrun]
    rintro _ ⟨⟩
    exact hs.idle hwaiting r hrunning
  · obtain ⟨hparser, -⟩ := hturn hwaiting
    rw [hparser]
    exact hs.configured hwaiting todo hfinishing

lemma step_started {a : SdkAction} (hs : s.Started P param) (h : s.step env P device param a = some t) :
    t.Started P param := by
  cases a with
  | receive result =>
    obtain rfl := receive_eq h
    exact ⟨hs.progress, hs.fresh, hs.begun, hs.replay, hs.silent, hs.idle, hs.configured⟩
  | store =>
    obtain ⟨result, -, hcases⟩ := store_eq h
    rcases hcases with ⟨-, buffer, -, rfl⟩ | ⟨-, rfl⟩
    · exact ⟨hs.progress, hs.fresh, hs.begun, hs.replay, hs.silent, hs.idle, hs.configured⟩
    · exact ⟨hs.progress, hs.fresh, hs.begun, hs.replay, hs.silent, hs.idle, hs.configured⟩
  | initFetch timeout =>
    obtain ⟨hinit, value, buffer, -, rfl⟩ := initFetch_eq h
    have hprogress := hs.progress
    rw [Progress, hinit] at hprogress
    obtain ⟨hnew, hrunning⟩ := hs.fresh _ hinit
    refine ⟨hprogress, fun _ _ => ⟨hnew, hrunning⟩, hs.begun, fun hsource hrun => ?_, hs.silent, hs.idle, nofun⟩
    rw [hrunning] at hrun
    cases hrun
  | initDecode => exact hs.initDecode h
  | initStep => exact hs.initStep h
  | startRun => exact hs.startRun h
  | runFetch timeout => exact hs.runFetch h
  | runTurn => exact hs.runTurn h

lemma reaches_begun (h : Reaches (step env P device param) (fun _ _ => True) (start param) s) : s.Started P param :=
  reaches_invariant (fun _ _ _ _ hs h => step_started hs h) h start_started

/-- `Run` begins behind the loop of `Init`, and behind all of it unless the source is the lidar. Up to the flag
`PointCloudParse` it does nothing but hand on fault messages, and the parser is the one that was created with the
settings so far, in their order; from then on no setting is left. -/
theorem reaches_started (h : Reaches (step env P device param) (fun _ _ => True) (start param) s) :
    (s.running.isSome → ∃ done todo, s.init = .finishing todo ∧ param.program = done ++ todo ∧
      .finish .faultMessParse ∈ done ∧ (param.sourceType ≠ .dataFromLidar → todo = [])) ∧
    (s.initFinish .pointCloudParse = false →
      (∀ event ∈ s.log, ∃ info, event = .faultMessage info) ∧
      (∀ r ∈ s.running, r.udpPacketFrame = [] ∧ r.packetIndex = 0) ∧
      ∀ todo, s.init = .finishing todo → ∃ type done, param.program = done ++ todo ∧
        s.udpParser = InitStep.settled done { (UdpParser.new : UdpParser σ) with parser := some (P.new type) }) ∧
    (s.initFinish .pointCloudParse = true → ∃ todo, s.init = .finishing todo ∧ ∀ step ∈ todo, ¬step.IsSet) := by
  have hs := reaches_begun h
  have hprogress := hs.progress
  refine ⟨fun hrun => ?_, fun hwaiting => ⟨hs.silent hwaiting, hs.idle hwaiting, hs.configured hwaiting⟩, fun hset => ?_⟩
  · obtain ⟨todo, hinit⟩ := hprogress.finishing (hs.begun hrun)
    rw [Progress, hinit] at hprogress
    obtain ⟨done, hprogram, hflags⟩ := hprogress
    refine ⟨done, todo, hinit, hprogram, (hflags _).mp (hs.begun hrun), fun hsource => ?_⟩
    have hnil := hs.replay hsource hrun
    rw [hinit] at hnil
    exact InitThread.finishing.inj hnil
  · obtain ⟨todo, hinit⟩ := hprogress.finishing hset
    rw [Progress, hinit] at hprogress
    obtain ⟨done, hprogram, hflags⟩ := hprogress
    exact ⟨todo, hinit, finished_of_pointCloudParse hprogram ((hflags _).mp hset)⟩

def onParser (setting : GeneralParser → GeneralParser) (u : UdpParser GeneralParser) : UdpParser GeneralParser :=
  { u with parser := u.parser.map setting }

/-- The optical centre before the loop of `Run` may start, then the frame azimuth and the calibration file. -/
def settingParam : StartParam GeneralParser LidarPointXYZICRT Unit :=
  ⟨.dataFromLidar, [onParser fun p => { p with enableDistanceCorrection := true }],
    [onParser (·.setFrameAzimuth 90), onParser fun p => { p with getCorrectionFile := true }], 0, default, default,
    default, default, ()⟩

abbrev settingStep : SdkThreads GeneralParser LidarPointXYZICRT Unit → SdkAction →
    Option (SdkThreads GeneralParser LidarPointXYZICRT Unit) :=
  step default (udp61 default LidarPointXYZICRT Unit) ⟨0, 0, 0⟩ settingParam

def settingArrival : SdkAction := .receive (SdkState.exampleDatagram [0xEE, 0xFF, 6, 1, 0, 0] 1).result

/-- `Run` takes a packet between two setters of `Init`. -/
def settingTurn : List SdkAction :=
  [settingArrival, .store, .initFetch false, .initDecode, .initStep, .initStep, .startRun, .initStep, settingArrival,
    .store, .runFetch false, .runTurn]

def settingFinish : List SdkAction := [.initStep, .initStep, .initStep]

def settledAs (p : GeneralParser) : Bool × ℚ × Bool :=
  (p.enableDistanceCorrection, p.frameStartAzimuth, p.getCorrectionFile)

theorem reaches_started_example :
    (∃ s, exec settingStep settingTurn (start settingParam) = some s ∧
      s.udpParser.parser.map settledAs = some (true, 90, false) ∧
      (∃ done todo, s.init = .finishing todo ∧ settingParam.program = done ++ todo ∧ .finish .faultMessParse ∈ done) ∧
      (∀ event ∈ s.log, ∃ info, event = .faultMessage info) ∧ ∀ r ∈ s.running, r.udpPacketFrame = []) ∧
    ∃ s, exec settingStep (settingTurn ++ settingFinish) (start settingParam) = some s ∧
      s.udpParser.parser.map settledAs = some (true, 90, true) ∧
      ∃ todo, s.init = .finishing todo ∧ ∀ step ∈ todo, ¬step.IsSet := by
  have hturn : (exec settingStep settingTurn (start settingParam)).map (fun s => (s.running.isSome,
      s.initFinish .pointCloudParse, s.udpParser.parser.map settledAs)) =
        some (true, false, some (true, 90, false)) := by
    decide +kernel
  have hfinish : (exec settingStep (settingTurn ++ settingFinish) (start settingParam)).map (fun s =>
      (s.initFinish .pointCloudParse, s.udpParser.parser.map settledAs)) = some (true, some (true, 90, true)) := by
    decide +kernel
  obtain ⟨s, hs, hfacts⟩ := Option.map_eq_some_iff.mp hturn
  obtain ⟨t, ht, hdone⟩ := Option.map_eq_some_iff.mp hfinish
  simp only [Prod.mk.injEq] at hfacts hdone
  obtain ⟨hrunning, hwaiting, hparser⟩ := hfacts
  obtain ⟨hbegun, hidle, -⟩ := reaches_started (reaches_of_exec hs)
  obtain ⟨done, todo, hinit, hprogram, hmem, -⟩ := hbegun hrunning
  obtain ⟨hsilent, hempty, -⟩ := hidle hwaiting
  refine ⟨⟨s, hs, hparser, ⟨done, todo, hinit, hprogram, hmem⟩, hsilent, fun r hr => (hempty r hr).1⟩, t, ht,
    hdone.2, ?_⟩
  exact (reaches_started (reaches_of_exec ht)).2.2 hdone.1

end Waiting

end SdkThreads

end HesaiSdk.Driver
