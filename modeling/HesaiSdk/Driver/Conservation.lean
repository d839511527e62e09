import HesaiSdk.Driver.Delivery
import HesaiSdk.Driver.FrameInvariant
import HesaiSdk.UdpParser.Dispatch

/-! What becomes of the packets, whichever parser there is and whatever the order of the steps of the threads. -/

namespace HesaiSdk.Driver

open Container Library Library.Channel Library.Transition Lidar UdpProtocol Parsing

variable {σ Pt Fault : Type} {env : Environment} {P : Parser σ Pt Fault} {F : FramingParser σ Pt Fault}
  {device : DeviceFilter}

namespace RunState

variable {s : RunState σ Pt Fault} {packet : UdpPacket} {pointCloudParse : Bool}

lemma classify_decode {packetIndex : ℕ} {decoded : UdpPacket}
    (h : device.classify packetIndex ⟨some packet, pointCloudParse⟩ = .decode decoded) : decoded = packet := by
  simp only [DeviceFilter.classify] at h
  split_ifs at h
  cases h
  rfl

lemma acceptedPackets_splitFrame : acceptedPackets (s.splitFrame env P packet).log = [] := by
  rw [splitFrame, log_bind, log_note, acceptedPackets_append, acceptedPackets_publish]
  split_ifs
  · rfl
  · rw [log_bind, acceptedPackets_append, acceptedPackets_decode_log, acceptedPackets_append_log]
    rfl

lemma acceptedPackets_overflow : acceptedPackets s.overflow.log = [] := by
  rw [overflow]
  split_ifs <;> rfl

lemma sublist_parsePacket : (acceptedPackets (s.parsePacket env P packet).log).Sublist [packet] := by
  have hone (before : ℕ) (d : ℤ × RunState σ Pt Fault) :
      (acceptedPackets (acceptedIf packet before d).log).Sublist [packet] := by
    rw [acceptedIf]
    split_ifs
    · exact List.Sublist.refl _
    · exact List.nil_sublist _
  have hrest : ∀ d : ℤ × RunState σ Pt Fault, acceptedPackets
      (if d.1 ≠ 0 then pure d.2
        else if d.2.frame.scanComplete then d.2.splitFrame env P packet
        else do
          let s ← (if d.2.frame.packetNum = d.2.packetIndex then pure d.2 else d.2.append P packet)
          s.overflow : Logged (RunEvent Pt Fault) (RunState σ Pt Fault)).log = [] := by
    intro d
    split_ifs
    · rfl
    · exact acceptedPackets_splitFrame
    · rw [log_bind, acceptedPackets_append, acceptedPackets_overflow]
      rfl
    · rw [log_bind, acceptedPackets_append, acceptedPackets_overflow, acceptedPackets_append_log]
      rfl
  rw [parsePacket, log_bind, acceptedPackets_append, acceptedPackets_decode_log, List.nil_append, log_bind,
    acceptedPackets_append, hrest, List.append_nil]
  exact hone _ _

lemma sublist_step :
    (acceptedPackets (s.step env P device ⟨some packet, pointCloudParse⟩).log).Sublist [packet] := by
  rw [step]
  cases hclass : device.classify s.packetIndex ⟨some packet, pointCloudParse⟩ with
  | skip => exact List.nil_sublist _
  | fault fault =>
    show (acceptedPackets (s.parseFault P fault).log).Sublist [packet]
    rw [parseFault]
    split_ifs <;> exact List.nil_sublist _
  | decode decoded =>
    obtain rfl := classify_decode hclass
    exact sublist_parsePacket

end RunState

lemma switched_marked {b : Bool} {result : SocketResult} (hin : (result.reception.switched b).emplaced = true)
    (ht : (result.reception.switched b).packet.isTimeout = true) :
    ¬Delimited env (result.reception.switched b).packet := by
  cases result with
  | error => exact absurd hin Bool.false_ne_true
  | timeout buffer recvTimestamp =>
    cases b with
    | false => exact SdkState.silence_not_delimited trivial
    | true => exact absurd hin Bool.false_ne_true
  | datagram len buffer recvTimestamp ip port =>
    rw [(SocketResult.switched_sender len buffer recvTimestamp ip port b).2.2] at ht
    exact absurd ht (by decide)

namespace SdkState

variable {setup : Setup σ Pt Fault} {history : List Arrival}

variable (env P device setup) in
lemma run_after : (run env P device setup history).val.isTimeout =
    after receiveOne (history.map Arrival.result) false := by
  induction history using List.reverseRecOn with
  | nil => rfl
  | append_singleton history a ih =>
    rw [run_append, step_isTimeout, ih, List.map_append, List.map_singleton, after_concat]
    rfl

/-- What `run` keeps of each phase. -/
def Counted (log : List (RunEvent Pt Fault)) : Phase σ Pt Fault → Prop
  | .init _ => log = []
  | .run _ state => ∃ sourceType, state.FrameInv sourceType log

/-- The packets of the result that comes next are such as the parser is handed. -/
def Handed (env : Environment) (F : FramingParser σ Pt Fault) : Prop :=
  ∀ packet : UdpPacket, (packet.isTimeout = true → ¬Delimited env packet) → F.Received packet

lemma consume_counted {phase : Phase σ Pt Fault} {log : List (RunEvent Pt Fault)} {packet : UdpPacket}
    {pointCloudParse : Bool} (hsettings : ∀ u, u.parser.isSome → (setup.settings u).parser.isSome)
    (hr : F.Received packet) (h : Counted log phase) :
    Counted (log ++ (phase.consume env F.toParser device setup packet pointCloudParse).log)
      (phase.consume env F.toParser device setup packet pointCloudParse).val := by
  cases phase with
  | init frame =>
    obtain rfl : log = [] := h
    simp only [Phase.consume, val_bind, log_bind, val_pure, log_pure, log_relabel, decodePacket_new_log, List.map_nil,
      List.append_nil]
    have hparser := decodePacket_new env F.toParser frame packet
    cases hdetect : detect env packet with
    | none => rfl
    | some type =>
      rw [hdetect] at hparser
      refine ⟨_, ⟨⟨⟨hsettings _ ?_, rfl⟩, rfl, rfl, RunState.kMaxPacketNumPerFrame_pos⟩, rfl⟩⟩
      simp [hparser]
  | run type state =>
    obtain ⟨sourceType, hstate⟩ := h
    have hfetch : (⟨some packet, pointCloudParse⟩ : Fetch).Received F := by
      rintro _ ⟨⟩
      exact hr
    simp only [Phase.consume, val_bind, log_bind, val_pure, log_pure, List.append_nil]
    exact ⟨sourceType, RunState.step_inv hfetch hstate⟩

lemma consume_accepted {phase : Phase σ Pt Fault} {packet : UdpPacket} {pointCloudParse : Bool} :
    (acceptedPackets (phase.consume env P device setup packet pointCloudParse).log).Sublist [packet] := by
  cases phase with
  | init frame =>
    simp only [Phase.consume, log_bind, log_pure, log_relabel, decodePacket_new_log, List.map_nil, List.append_nil]
    exact List.nil_sublist _
  | run type state =>
    simp only [Phase.consume, log_bind, log_pure, List.append_nil]
    exact RunState.sublist_step

lemma step_log {s : SdkState σ Pt Fault} {a : Arrival} : (s.step env P device setup a).log =
    if (a.result.reception.switched s.isTimeout).emplaced then (s.phase.consume env P device setup
      (a.result.reception.switched s.isTimeout).packet a.pointCloudParse).log
    else [] := by
  rw [step]
  split_ifs
  · rw [log_bind, log_pure, List.append_nil]
  · rfl

variable (device history) in
lemma run_counted (hsettings : ∀ u, u.parser.isSome → (setup.settings u).parser.isSome) (hhanded : Handed env F) :
    Counted (run env F.toParser device setup history).log (run env F.toParser device setup history).val.phase := by
  induction history using List.reverseRecOn with
  | nil => rfl
  | append_singleton history a ih =>
    rw [run_append]
    simp only [step_phase, step_log]
    split_ifs with hin
    · exact consume_counted hsettings (hhanded _ (switched_marked hin)) ih
    · rwa [List.append_nil]

lemma run_accepted : (acceptedPackets (run env P device setup history).log).Sublist
    (emplaced (history.map Arrival.result) false) := by
  induction history using List.reverseRecOn with
  | nil => exact List.nil_sublist _
  | append_singleton history a ih =>
    rw [run_append, acceptedPackets_append, List.map_append, List.map_singleton, emplaced, messages_concat,
      ← run_after env P device setup]
    refine List.Sublist.append ih ?_
    by_cases hin : (a.result.reception.switched (run env P device setup history).val.isTimeout).emplaced = true
    · simp only [step_log, receiveOne, if_pos hin]
      exact consume_accepted
    · simp only [step_log, receiveOne, if_neg hin]
      exact List.nil_sublist _

end SdkState

/-- The setters of `Init`: virtual functions of the parser, and `SetPcapPlay` of `UdpParser`. -/
inductive ParserSetting (State : ParserType → Type) where
  | parser (set : ∀ type, State type → State type)
  | pcapPlay (pcapTimeSynchronization : Bool) (sourceType : ℤ)

namespace ParserSetting

variable {State : ParserType → Type}

def apply (u : UdpParser (Σ type, State type)) : ParserSetting State → UdpParser (Σ type, State type)
  | parser set => { u with parser := u.parser.map fun p => ⟨p.1, set p.1 p.2⟩ }
  | pcapPlay pcapTimeSynchronization sourceType =>
    { u with pcapTimeSynchronization := pcapTimeSynchronization, sourceType := sourceType }

lemma apply_isSome (setting : ParserSetting State) (u : UdpParser (Σ type, State type)) :
    (setting.apply u).parser.isSome = u.parser.isSome := by
  cases setting with
  | parser set => exact Option.isSome_map
  | pcapPlay pcapTimeSynchronization sourceType => rfl

lemma keepsFaults [Point Pt] {faultMessage43 faultMessage47 : UdpPacket → Fault → Fault}
    (setting : ParserSetting ParserState) :
    KeepsFaults (anyParser env Pt faultMessage43 faultMessage47).toParser setting.apply := by
  intro u packet info
  cases setting with
  | pcapPlay pcapTimeSynchronization sourceType => rfl
  | parser set =>
    simp only [apply, UdpParser.parserFaultMessage]
    cases u.parser with
    | none => rfl
    | some p => simp only [Option.map_some, anyParser_fault]

end ParserSetting

/-- The parameters, with the setters that `Init` calls before and behind the first flag. -/
def StartParam.withSettings (param : StartParam (Σ type, ParserState type) Pt Fault)
    (basicSettings decoderSettings : List (ParserSetting ParserState)) :
    StartParam (Σ type, ParserState type) Pt Fault :=
  { param with
    basicSettings := basicSettings.map fun setting u => setting.apply u
    decoderSettings := decoderSettings.map fun setting u => setting.apply u }

namespace SdkThreads

def currentPackets (s : SdkThreads σ Pt Fault) : List UdpPacket := s.running.elim [] RunThread.udpPacketFrame

variable {faultMessage43 faultMessage47 : UdpPacket → Fault → Fault}
  {param : StartParam (Σ type, ParserState type) Pt Fault} {basicSettings decoderSettings : List (ParserSetting ParserState)}

variable [Point Pt] in
lemma settles : Settles (anyParser env Pt faultMessage43 faultMessage47).toParser
    (param.withSettings basicSettings decoderSettings) := by
  intro setting hsetting
  simp only [StartParam.withSettings, ← List.map_append, List.mem_map] at hsetting
  obtain ⟨setting, -, rfl⟩ := hsetting
  exact setting.keepsFaults

variable (param basicSettings decoderSettings) in
lemma settings_isSome (u : UdpParser (Σ type, ParserState type)) (h : u.parser.isSome) :
    ((param.withSettings basicSettings decoderSettings).setup.settings u).parser.isSome := by
  have hall : ∀ step ∈ (param.withSettings basicSettings decoderSettings).program,
      ∀ u : UdpParser (Σ type, ParserState type), (step.apply u).parser.isSome = u.parser.isSome := by
    intro step hstep u
    cases step with
    | set setting =>
      obtain ⟨setting, -, rfl⟩ := List.mem_map.mp (List.map_append ▸ mem_program hstep)
      exact setting.apply_isSome u
    | finish status => rfl
  show (InitStep.settled _ u).parser.isSome
  generalize (param.withSettings basicSettings decoderSettings).program = todo at hall
  induction todo generalizing u with
  | nil => exact h
  | cons step todo ih =>
    rw [InitStep.settled_cons]
    refine ih (step.apply u) ?_ fun step hstep => hall step (List.mem_cons_of_mem _ hstep)
    rw [hall step List.mem_cons_self]
    exact h

variable [Point Pt]

variable (env faultMessage43 faultMessage47) in
lemma handed : SdkState.Handed env (anyParser env Pt faultMessage43 faultMessage47) :=
  fun _ hmark => anyParser_received hmark

/-- The states that the threads come to, with whichever parser is created and in whatever order they take steps. -/
def Reached (env : Environment) (device : DeviceFilter) (faultMessage43 faultMessage47 : UdpPacket → Fault → Fault)
    (param : StartParam (Σ type, ParserState type) Pt Fault) (s : SdkThreads (Σ type, ParserState type) Pt Fault) :
    Prop :=
  Reaches (step env (anyParser env Pt faultMessage43 faultMessage47).toParser device param) (fun _ _ => True)
    (start param) s

variable (env) (device) (faultMessage43 faultMessage47) (param) (basicSettings decoderSettings)

/-- The receive thread, `Init` and `Run` hand on every packet once and in order: for every order of their steps, what
has been done is what one thread would have done with the first of the results, and what waits are the packets of the
others. -/
theorem reaches_inOrder (s : SdkThreads (Σ type, ParserState type) Pt Fault)
    (h : Reached env device faultMessage43 faultMessage47 (param.withSettings basicSettings decoderSettings) s) :
    ∃ (history : List Arrival) (rest : List SocketResult),
      let r := SdkState.run env (anyParser env Pt faultMessage43 faultMessage47).toParser device
        (param.withSettings basicSettings decoderSettings).setup history
      s.arrived = history.map Arrival.result ++ rest ∧ s.log = r.log ∧
        s.Corresponds (param.withSettings basicSettings decoderSettings) r.val.phase ∧
        s.fetched.toList ++ s.originPacketsBuffer.ring.contents = emplaced rest r.val.isTimeout :=
  reaches_delivered settles h

/-- The packets that were put away with a frame, those of the current one and those that wait are, in this order,
packets that were received, each at most once. -/
theorem reaches_conserved (s : SdkThreads (Σ type, ParserState type) Pt Fault)
    (h : Reached env device faultMessage43 faultMessage47 (param.withSettings basicSettings decoderSettings) s) :
    closedPackets s.log ++ s.currentPackets = acceptedPackets s.log ∧
      (closedPackets s.log ++ s.currentPackets ++ (s.fetched.toList ++ s.originPacketsBuffer.ring.contents)).Sublist
        (emplaced s.arrived false) ∧
      ∀ r ∈ s.running, r.packetIndex = s.frame.packetNum ∧ r.packetIndex = r.udpPacketFrame.length ∧
        r.packetIndex < kMaxPacketNumPerFrame := by
  obtain ⟨history, rest, harrived, hlog, hphase, hqueue⟩ := reaches_delivered settles h
  have hcounted := SdkState.run_counted device history (settings_isSome param basicSettings decoderSettings)
    (handed env faultMessage43 faultMessage47)
  have haccepted : (acceptedPackets s.log).Sublist (emplaced (history.map Arrival.result) false) :=
    hlog ▸ SdkState.run_accepted
  rw [← hlog] at hcounted
  have hpartition : closedPackets s.log ++ s.currentPackets = acceptedPackets s.log ∧
      ∀ r ∈ s.running, r.packetIndex = s.frame.packetNum ∧ r.packetIndex = r.udpPacketFrame.length ∧
        r.packetIndex < kMaxPacketNumPerFrame := by
    generalize (SdkState.run env (anyParser env Pt faultMessage43 faultMessage47).toParser device
      (param.withSettings basicSettings decoderSettings).setup history).val.phase = phase at hcounted hphase
    cases phase with
    | init frame =>
      obtain ⟨-, hrunning, -⟩ := hphase
      rw [show s.log = [] from hcounted, currentPackets, hrunning]
      exact ⟨rfl, nofun⟩
    | run type state =>
      obtain ⟨sourceType, hframe⟩ := hcounted
      obtain ⟨todo, -, rfl⟩ := hphase
      cases hrunning : s.running with
      | none =>
        have hpart := hframe.partition
        simp only [loopState, hrunning] at hpart
        rw [currentPackets, hrunning]
        exact ⟨hpart, nofun⟩
      | some r =>
        have hpart := hframe.partition
        have hnum := hframe.packetNum
        have hlength := hframe.length
        have hbelow := hframe.below
        simp only [loopState, hrunning] at hpart hnum hlength hbelow
        rw [currentPackets, hrunning]
        refine ⟨hpart, ?_⟩
        rintro _ ⟨⟩
        exact ⟨hnum.symm, hlength.symm, hbelow⟩
  refine ⟨hpartition.1, ?_, hpartition.2⟩
  rw [hpartition.1, hqueue, SdkState.run_after, harrived, emplaced, messages_append]
  exact List.Sublist.append haccepted (List.Sublist.refl _)

def exampleParam : StartParam (Σ type, ParserState type) LidarPointXYZICRT Unit :=
  ⟨.dataFromLidar, [], [], 0, default, default, default, default, ()⟩

def exampleCalibration : ParserSetting ParserState := .parser fun
  | .udp61, p => { p with getCorrectionFile := true }
  | _, p => p

/-- `Init` finds the parser in the first packet, and `Run` decodes the second. -/
def exampleActions : List SdkAction :=
  [.receive (SdkState.exampleDatagram [0xEE, 0xFF, 6, 1, 0, 0] 1).result, .store, .initFetch false, .initDecode, .initStep,
    .initStep, .initStep, .startRun, .receive (SdkState.exampleDatagram [0xEE, 0xFF, 6, 1, 0, 0] 1).result, .store,
    .runFetch false, .runTurn, .receive (SdkState.exampleDatagram [0xEE, 0xFF, 6, 1, 0, 0] 1).result, .store]

def exampleThreads : Option (SdkThreads (Σ type, ParserState type) LidarPointXYZICRT Unit) :=
  exec (step default (anyParser default LidarPointXYZICRT (fun _ info => info) fun _ info => info).toParser ⟨0, 0, 0⟩
    (exampleParam.withSettings [] [exampleCalibration])) exampleActions
    (start (exampleParam.withSettings [] [exampleCalibration]))

lemma exampleThreads_isSome : exampleThreads.isSome = true := by rfl

def exampleState : SdkThreads (Σ type, ParserState type) LidarPointXYZICRT Unit :=
  exampleThreads.get exampleThreads_isSome

lemma exampleState_reached : Reached default ⟨0, 0, 0⟩ (fun _ info => info) (fun _ info => info)
    (exampleParam.withSettings [] [exampleCalibration]) exampleState :=
  reaches_of_exec (Option.some_get exampleThreads_isSome).symm

theorem reaches_inOrder_example : ∃ (history : List Arrival) (rest : List SocketResult),
    exampleState.arrived = history.map Arrival.result ++ rest ∧
      exampleState.originPacketsBuffer.ring.contents.length = 1 := by
  obtain ⟨history, rest, harrived, -⟩ := reaches_inOrder default ⟨0, 0, 0⟩ (fun _ info => info) (fun _ info => info)
    exampleParam [] [exampleCalibration] exampleState exampleState_reached
  exact ⟨history, rest, harrived, by rfl⟩

theorem reaches_conserved_example :
    closedPackets exampleState.log ++ exampleState.currentPackets = acceptedPackets exampleState.log ∧
      exampleState.currentPackets.length = 1 :=
  ⟨(reaches_conserved default ⟨0, 0, 0⟩ (fun _ info => info) (fun _ info => info) exampleParam [] [exampleCalibration]
    exampleState exampleState_reached).1, by rfl⟩

end SdkThreads

end HesaiSdk.Driver
