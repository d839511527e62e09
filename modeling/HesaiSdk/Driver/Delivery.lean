import HesaiSdk.Driver.Startup

/-! The threads do what `SdkState` does with the first of the results, and the buffer holds the packets of the rest. -/

namespace HesaiSdk.Driver

open Container Library Library.Channel Library.Transition Lidar UdpProtocol Parsing

variable {σ Pt Fault : Type} {env : Environment} {P : Parser σ Pt Fault} {device : DeviceFilter}

/-- The receive thread, which emplaces at most one packet for each result. -/
def receiveOne (isTimeout : Bool) (result : SocketResult) : Bool × Option UdpPacket :=
  let switched := result.reception.switched isTimeout
  (switched.isTimeout, if switched.emplaced then some switched.packet else none)

/-- The packets of these results. -/
abbrev emplaced : List SocketResult → Bool → List UdpPacket := messages receiveOne

def Phase.take (env : Environment) (P : Parser σ Pt Fault) (device : DeviceFilter) (setup : Setup σ Pt Fault)
    (phase : Phase σ Pt Fault) (packet : UdpPacket) (pointCloudParse : Bool) :
    Logged (RunEvent Pt Fault) (Phase σ Pt Fault) :=
  phase.consume env P device setup packet pointCloudParse

section Direct

variable (env P device) (setup : Setup σ Pt Fault)

lemma direct_eq (s : SdkState σ Pt Fault) (a : SocketResult × Bool) :
    direct receiveOne (Phase.take env P device setup) (s.isTimeout, s.phase) a =
      ⟨((s.step env P device setup ⟨a.1, a.2⟩).val.isTimeout, (s.step env P device setup ⟨a.1, a.2⟩).val.phase),
        (s.step env P device setup ⟨a.1, a.2⟩).log⟩ := by
  rw [SdkState.step]
  by_cases hin : (a.1.reception.switched s.isTimeout).emplaced = true
  · rw [direct, if_pos hin]
    simp only [receiveOne, if_pos hin, Phase.take, val_bind, val_pure, log_bind, log_pure, List.append_nil]
  · rw [direct, if_neg hin]
    simp only [receiveOne, if_neg hin, val_pure, log_pure]

lemma runs_direct (history : List (SocketResult × Bool)) :
    runs (direct receiveOne (Phase.take env P device setup)) history
        (false, .init (.new setup.sensorTimestamp setup.points setup.pointData)) =
      let r := SdkState.run env P device setup (history.map fun a => ⟨a.1, a.2⟩)
      ⟨(r.val.isTimeout, r.val.phase), r.log⟩ := by
  induction history using List.reverseRecOn with
  | nil => rfl
  | append_singleton history a ih =>
    rw [runs_append, ih, runs, runs, List.map_append, List.map_singleton, SdkState.run_append]
    simp only [direct_eq, List.append_nil]

end Direct

/-- A setting that does not bear on what `ParserFaultMessage` makes of a packet. -/
def KeepsFaults (P : Parser σ Pt Fault) (setting : UdpParser σ → UdpParser σ) : Prop :=
  ∀ u packet info, (setting u).parserFaultMessage P packet info = u.parserFaultMessage P packet info

namespace SdkThreads

variable {param : StartParam σ Pt Fault} {s t : SdkThreads σ Pt Fault}

def Settles (P : Parser σ Pt Fault) (param : StartParam σ Pt Fault) : Prop :=
  ∀ setting ∈ param.basicSettings ++ param.decoderSettings, KeepsFaults P setting

/-- The packet that `Init` or `Run` has taken out of the buffer. -/
def fetched (s : SdkThreads σ Pt Fault) : Option UdpPacket :=
  match s.init with
  | .detecting fetched => fetched
  | .finishing _ => s.running.bind RunThread.fetched

/-- The loop of `Run`, or what it will start from. -/
def loopState (param : StartParam σ Pt Fault) (s : SdkThreads σ Pt Fault) : RunState σ Pt Fault :=
  match s.running with
  | none => ⟨s.udpParser, param.settle s.frame, [], 0, param.faultMessageInfo⟩
  | some r => s.runState r

/-- The settings still to come are applied from the start in the sequential model. -/
def Corresponds (param : StartParam σ Pt Fault) (s : SdkThreads σ Pt Fault) : Phase σ Pt Fault → Prop
  | .init frame => (∃ fetched, s.init = .detecting fetched) ∧ s.running = none ∧ s.udpParser = .new ∧ s.frame = frame
  | .run _ state => ∃ todo, s.init = .finishing todo ∧
      state = { s.loopState param with udpParser := InitStep.settled todo s.udpParser }

structure Serial (env : Environment) (P : Parser σ Pt Fault) (device : DeviceFilter) (param : StartParam σ Pt Fault)
    (s : SdkThreads σ Pt Fault) : Prop where
  isTimeout : s.isTimeout = after receiveOne s.arrived false
  progress : s.Progress param
  delivered : ∃ history phase, Delivered receiveOne (Phase.take env P device param.setup) false
    (.init (.new param.sensorTimestamp param.points param.pointData)) s.arrived
      (s.fetched.toList ++ s.originPacketsBuffer.ring.contents) history ⟨phase, s.log⟩ ∧ s.Corresponds param phase

section Settings

variable {todo : List (InitStep σ)} {u : UdpParser σ} {packet : UdpPacket} {info : Fault}

lemma settled_faults (hkeep : Settles P param) (htodo : todo <:+ param.program) :
    (InitStep.settled todo u).parserFaultMessage P packet info = u.parserFaultMessage P packet info := by
  induction todo generalizing u with
  | nil => rfl
  | cons step todo ih =>
    have hmem : step ∈ param.program := htodo.subset List.mem_cons_self
    rw [InitStep.settled_cons, ih (List.IsSuffix.trans (List.suffix_cons step todo) htodo)]
    cases step with
    | set setting => exact hkeep setting (mem_program hmem) u packet info
    | finish status => rfl

end Settings

section Turns

variable {todo : List (InitStep σ)} {state : RunState σ Pt Fault} {packet : UdpPacket} {pointCloudParse : Bool}

variable (env device state packet) in
/-- A turn of `Run` is the same before the settings that are still to come as behind them. -/
lemma step_settled (hkeep : Settles P param) (htodo : todo <:+ param.program)
    (hset : pointCloudParse = true → ∀ step ∈ todo, ¬step.IsSet) :
    RunState.step env P device { state with udpParser := InitStep.settled todo state.udpParser }
        ⟨some packet, pointCloudParse⟩ =
      ⟨{ (state.step env P device ⟨some packet, pointCloudParse⟩).val with
          udpParser := InitStep.settled todo (state.step env P device ⟨some packet, pointCloudParse⟩).val.udpParser },
        (state.step env P device ⟨some packet, pointCloudParse⟩).log⟩ := by
  cases pointCloudParse with
  | true => simp only [InitStep.settled_of_finished (hset rfl)]
  | false =>
    rcases classify_waiting device state.packetIndex (some packet) with hskip | ⟨fault, hfault⟩
    · simp only [RunState.step, hskip, val_pure, log_pure]
      rfl
    · have hsame (info : Fault) : (InitStep.settled todo state.udpParser).parserFaultMessage P fault info =
          state.udpParser.parserFaultMessage P fault info := settled_faults hkeep htodo
      simp only [RunState.step, hfault, RunState.parseFault, hsame]
      split_ifs <;> rfl

end Turns

section Steps

lemma Serial.popped {value : Option UdpPacket} {buffer : BlockingRing UdpPacket kPacketBufferSize} {timeout : Bool}
    (hs : Serial env P device param s) (hnone : s.fetched = none)
    (hpop : s.originPacketsBuffer.tryPopFront timeout = some (value, buffer)) :
    ∃ history phase, Delivered receiveOne (Phase.take env P device param.setup) false
      (.init (.new param.sensorTimestamp param.points param.pointData)) s.arrived (value.toList ++ buffer.ring.contents)
        history ⟨phase, s.log⟩ ∧ s.Corresponds param phase := by
  obtain ⟨history, phase, hdelivered, hphase⟩ := hs.delivered
  rw [hnone, Option.toList_none, List.nil_append, ← BlockingRing.contents_tryPopFront hpop] at hdelivered
  exact ⟨history, phase, hdelivered, hphase⟩

lemma Serial.store (hs : Serial env P device param s) (h : s.step env P device param .store = some t) :
    Serial env P device param t := by
  obtain ⟨result, -, hcases⟩ := store_eq h
  obtain ⟨history, phase, hdelivered, hphase⟩ := hs.delivered
  have hput := hdelivered.put result
  have hflag : after receiveOne (s.arrived ++ [result]) false =
      (result.reception.switched s.isTimeout).isTimeout := by
    rw [after_concat, ← hs.isTimeout]
    rfl
  rw [← hs.isTimeout, List.append_assoc] at hput
  rcases hcases with ⟨hemplaced, buffer, hpush, rfl⟩ | ⟨hemplaced, rfl⟩
  · refine ⟨hflag.symm, hs.progress, history, phase, ?_, hphase⟩
    rw [receiveOne, if_pos hemplaced, Option.toList_some, ← BlockingRing.contents_push hpush] at hput
    exact hput
  · refine ⟨hflag.symm, hs.progress, history, phase, ?_, hphase⟩
    rw [receiveOne, hemplaced, if_neg Bool.false_ne_true, Option.toList_none, List.append_nil] at hput
    exact hput

lemma Serial.initFetch {timeout : Bool} (hs : Serial env P device param s)
    (h : s.step env P device param (.initFetch timeout) = some t) : Serial env P device param t := by
  obtain ⟨hinit, value, buffer, hpop, rfl⟩ := initFetch_eq h
  have hnone : s.fetched = none := by rw [fetched, hinit]
  have hprogress := hs.progress
  rw [Progress, hinit] at hprogress
  obtain ⟨history, phase, hdelivered, hphase⟩ := hs.popped hnone hpop
  refine ⟨hs.isTimeout, hprogress, history, phase, hdelivered, ?_⟩
  cases phase with
  | init frame => exact ⟨⟨value, rfl⟩, hphase.2⟩
  | run type state =>
    obtain ⟨todo, hfinishing, -⟩ := hphase
    rw [hinit] at hfinishing
    cases hfinishing

lemma Serial.initDecode (hs : Serial env P device param s) (h : s.step env P device param .initDecode = some t) :
    Serial env P device param t := by
  obtain ⟨packet, hinit, rfl⟩ := initDecode_eq h
  obtain ⟨history, phase, hdelivered, hphase⟩ := hs.delivered
  have hfetched : s.fetched = some packet := by rw [fetched, hinit]
  have hprogress := hs.progress
  rw [Progress, hinit] at hprogress
  cases phase with
  | run type state =>
    obtain ⟨todo, hfinishing, -⟩ := hphase
    rw [hinit] at hfinishing
    cases hfinishing
  | init frame =>
    obtain ⟨-, hrunning, hnew, rfl⟩ := hphase
    rw [hfetched] at hdelivered
    obtain ⟨silent, i, -, htaken⟩ := hdelivered.take false
    have hparser := decodePacket_new env P s.frame packet
    rw [← hnew] at hparser
    cases hdetect : detect env packet with
    | none =>
      rw [hdetect] at hparser
      simp only [Phase.take, Phase.consume, ← hnew, val_bind, log_bind, val_pure, log_pure, hdetect,
        List.append_nil] at htaken
      rw [initDecode_of_none (by rw [hparser]; rfl)]
      refine ⟨hs.isTimeout, hprogress, _, _, htaken, ⟨none, rfl⟩, hrunning, ?_, rfl⟩
      rw [hparser, hnew]
      rfl
    | some type =>
      rw [hdetect] at hparser
      simp only [Phase.take, Phase.consume, ← hnew, val_bind, log_bind, val_pure, log_pure, hdetect,
        List.append_nil] at htaken
      rw [initDecode_of_some (by rw [hparser]; rfl)]
      let d := (s.udpParser.decodePacket env P s.frame packet).val
      refine ⟨hs.isTimeout, ⟨[], rfl, fun status => ?_⟩, history ++ silent ++ [(i, false)],
        .run type (.start (param.setup.settings d.parser) (param.settle d.frame) param.faultMessageInfo), ?_,
        param.program, rfl, ?_⟩
      · simp [hprogress status]
      · rw [fetched, hrunning]
        exact htaken
      · rw [loopState, hrunning]
        rfl

lemma Serial.initStep (hs : Serial env P device param s) (h : s.step env P device param .initStep = some t) :
    Serial env P device param t := by
  obtain ⟨step, todo, hinit, rfl⟩ := initStep_eq h
  obtain ⟨history, phase, hdelivered, hphase⟩ := hs.delivered
  have hprogress := hs.progress
  rw [Progress, hinit] at hprogress
  obtain ⟨done, hprogram, hflags⟩ := hprogress
  have hprogram' : param.program = (done ++ [step]) ++ todo := by rw [hprogram, List.append_assoc, List.singleton_append]
  rw [fetched, hinit] at hdelivered
  cases phase with
  | init frame =>
    obtain ⟨⟨fetched, hdetecting⟩, -⟩ := hphase
    rw [hinit] at hdetecting
    cases hdetecting
  | run type state =>
    obtain ⟨todo', hfinishing, hstate⟩ := hphase
    rw [hinit] at hfinishing
    cases hfinishing
    cases step with
    | set setting =>
      refine ⟨hs.isTimeout, ⟨_, hprogram', fun status => ?_⟩, history, _, hdelivered, todo, rfl, ?_⟩
      · simp [SdkThreads.initStep, hflags status]
      · rw [hstate, InitStep.settled_cons, loopState, loopState]
        simp only [SdkThreads.initStep]
        cases s.running <;> rfl
    | finish finished =>
      refine ⟨hs.isTimeout, ⟨_, hprogram', fun status => ?_⟩, history, _, hdelivered, todo, rfl, hstate⟩
      rcases eq_or_ne status finished with rfl | hne
      · simp [SdkThreads.initStep]
      · simp [SdkThreads.initStep, hflags status, hne]

lemma Serial.startRun (hs : Serial env P device param s) (h : s.step env P device param .startRun = some t) :
    Serial env P device param t := by
  obtain ⟨hrunning, hmay, rfl⟩ := startRun_eq h
  obtain ⟨history, phase, hdelivered, hphase⟩ := hs.delivered
  obtain ⟨todo, hinit⟩ : ∃ todo, s.init = .finishing todo := by
    rcases hmay with ⟨-, hset⟩ | hset
    · exact hs.progress.finishing hset
    · exact hs.progress.finishing hset
  rw [fetched, hinit, hrunning] at hdelivered
  cases phase with
  | init frame =>
    obtain ⟨⟨fetched, hdetecting⟩, -⟩ := hphase
    rw [hinit] at hdetecting
    cases hdetecting
  | run type state =>
    obtain ⟨todo', hfinishing, hstate⟩ := hphase
    refine ⟨hs.isTimeout, hs.progress, history, .run type state, ?_, todo', hfinishing, ?_⟩
    · rw [fetched]
      simp only [hinit]
      exact hdelivered
    · rw [hstate, loopState, hrunning]
      rfl

lemma Corresponds.running {phase : Phase σ Pt Fault} {r : RunThread Fault} (h : s.Corresponds param phase)
    (hrunning : s.running = some r) : ∃ type todo, s.init = .finishing todo ∧
      phase = .run type { s.runState r with udpParser := InitStep.settled todo s.udpParser } := by
  cases phase with
  | init frame =>
    obtain ⟨-, hnone, -⟩ := h
    rw [hrunning] at hnone
    cases hnone
  | run type state =>
    obtain ⟨todo, hinit, hstate⟩ := h
    refine ⟨type, todo, hinit, congrArg _ ?_⟩
    rw [hstate, loopState, hrunning]

lemma Serial.runFetch {timeout : Bool} (hs : Serial env P device param s)
    (h : s.step env P device param (.runFetch timeout) = some t) : Serial env P device param t := by
  obtain ⟨r, value, buffer, hrunning, hnone, hpop, rfl⟩ := runFetch_eq h
  obtain ⟨-, phase, -, hphase⟩ := hs.delivered
  obtain ⟨-, todo, hinit, -⟩ := hphase.running hrunning
  have hfetched : s.fetched = none := by
    rw [fetched, hinit, hrunning]
    exact hnone
  obtain ⟨history, phase, hdelivered, hphase⟩ := hs.popped hfetched hpop
  obtain ⟨type, todo, hinit, rfl⟩ := hphase.running hrunning
  refine ⟨hs.isTimeout, hs.progress, history,
    .run type { s.runState r with udpParser := InitStep.settled todo s.udpParser }, ?_, todo, hinit, rfl⟩
  rw [fetched]
  simp only [hinit]
  exact hdelivered

lemma Serial.runTurn (hkeep : Settles P param) (hs : Serial env P device param s)
    (h : s.step env P device param .runTurn = some t) : Serial env P device param t := by
  obtain ⟨r, packet, hrunning, hpacket, rfl⟩ := runTurn_eq h
  obtain ⟨history, phase, hdelivered, hphase⟩ := hs.delivered
  obtain ⟨type, todo, hinit, rfl⟩ := hphase.running hrunning
  have hfetched : s.fetched = some packet := by
    rw [fetched, hinit, hrunning]
    exact hpacket
  have hprogress := hs.progress
  rw [Progress, hinit] at hprogress
  obtain ⟨done, hprogram, hflags⟩ := hprogress
  have hturn := step_settled env device (s.runState r) packet hkeep ⟨done, hprogram.symm⟩ fun hset =>
    finished_of_pointCloudParse hprogram ((hflags .pointCloudParse).mp hset)
  rw [hfetched] at hdelivered
  obtain ⟨silent, i, -, htaken⟩ := hdelivered.take (s.initFinish .pointCloudParse)
  simp only [Phase.take, Phase.consume, val_bind, log_bind, val_pure, log_pure, List.append_nil] at htaken
  rw [show InitStep.settled todo s.udpParser = InitStep.settled todo (s.runState r).udpParser from rfl, hturn] at htaken
  let turn := (s.runState r).step env P device ⟨some packet, s.initFinish .pointCloudParse⟩
  refine ⟨hs.isTimeout, hs.progress, history ++ silent ++ [(i, s.initFinish .pointCloudParse)],
    .run type { turn.val with udpParser := InitStep.settled todo turn.val.udpParser }, ?_, todo, hinit, rfl⟩
  rw [fetched]
  simp only [SdkThreads.runTurn, hinit]
  exact htaken

lemma step_serial {a : SdkAction} (hkeep : Settles P param) (hs : Serial env P device param s)
    (h : s.step env P device param a = some t) : Serial env P device param t := by
  cases a with
  | receive result =>
    obtain rfl := receive_eq h
    exact ⟨hs.isTimeout, hs.progress, hs.delivered⟩
  | store => exact hs.store h
  | initFetch timeout => exact hs.initFetch h
  | initDecode => exact hs.initDecode h
  | initStep => exact hs.initStep h
  | startRun => exact hs.startRun h
  | runFetch timeout => exact hs.runFetch h
  | runTurn => exact hs.runTurn hkeep h

lemma start_serial : Serial env P device param (start param) where
  isTimeout := rfl
  progress _ := rfl
  delivered := ⟨[], _, Delivered.start, ⟨none, rfl⟩, rfl, rfl, rfl⟩

end Steps

lemma reaches_serial (hkeep : Settles P param)
    (h : Reaches (step env P device param) (fun _ _ => True) (start param) s) : Serial env P device param s :=
  reaches_invariant (fun _ _ _ _ hs h => step_serial hkeep hs h) h start_serial

/-- Whatever the order of the steps of the threads, the consumers have done what they do to the first of the results
one after another, and the buffer holds the packets of the others, but for one that has just been taken out. -/
lemma reaches_delivered (hkeep : Settles P param)
    (h : Reaches (step env P device param) (fun _ _ => True) (start param) s) :
    ∃ (history : List Arrival) (rest : List SocketResult),
      let r := SdkState.run env P device param.setup history
      s.arrived = history.map Arrival.result ++ rest ∧ s.log = r.log ∧ s.Corresponds param r.val.phase ∧
        s.fetched.toList ++ s.originPacketsBuffer.ring.contents = emplaced rest r.val.isTimeout := by
  obtain ⟨-, -, history, phase, ⟨hrun, rest, harrived, hqueue⟩, hphase⟩ := reaches_serial hkeep h
  have hresults : (history.map fun a => (⟨a.1, a.2⟩ : Arrival)).map Arrival.result = history.map Prod.fst := by
    rw [List.map_map]
    rfl
  have hsame := (runs_direct env P device param.setup history).symm.trans hrun
  obtain ⟨hval, hlog⟩ := Logged.mk.inj hsame
  obtain ⟨hflag, rfl⟩ := Prod.mk.inj hval
  refine ⟨history.map fun a => ⟨a.1, a.2⟩, rest, ?_, hlog.symm, hphase, ?_⟩
  · rw [hresults]
    exact harrived
  · rw [hflag]
    exact hqueue

end SdkThreads

end HesaiSdk.Driver
