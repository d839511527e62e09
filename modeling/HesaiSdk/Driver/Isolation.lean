import HesaiSdk.Driver.Run
import HesaiSdk.Lidar.Recording
import HesaiSdk.UdpParser.Udp61Parser
import Mathlib.Data.List.Induction

/-! `HesaiLidarSdk` from construction on: what is received goes to the detection loop of `Lidar::Init` until a
parser is found, and to `Run` from then on. -/

namespace HesaiSdk.Driver

open Library Lidar UdpProtocol Parsing

/-- `HesaiLidarSdk::Init`; 0xFFFFFFFF is `INADDR_NONE`. -/
def DeviceFilter.init (deviceIpAddress : UInt32) (deviceUdpSrcPort deviceFaultPort : UInt16) : DeviceFilter :=
  let taken (port : UInt16) : UInt16 :=
    if 1024 ≤ port ∧ port ≤ 65535 ∧ deviceIpAddress ≠ 0xFFFFFFFF then port else 0
  ⟨deviceIpAddress, taken deviceUdpSrcPort, taken deviceFaultPort⟩

def DeviceFilter.Owns (device : DeviceFilter) : SocketResult → Prop
  | .error => False
  | .timeout _ _ => True
  | .datagram len _ _ ip port => device.deviceIpAddress = ip ∧
      (device.deviceUdpPort = port ∨ (len : ℤ) = kFaultMessageLength ∧ device.deviceFaultPort = port)

instance (device : DeviceFilter) : DecidablePred device.Owns
  | .error => inferInstanceAs (Decidable False)
  | .timeout _ _ => inferInstanceAs (Decidable True)
  | .datagram _ _ _ _ _ => inferInstanceAs (Decidable (_ ∧ _))

/-- A turn of the receive thread, and `init_finish_[PointCloudParse]` when `Run` fetches its packet. -/
structure Arrival where
  result : SocketResult
  pointCloudParse : Bool

inductive Callback (Pt Fault : Type) where
  | pointCloud (frame : LidarDecodedFrame Pt)
  | faultMessage (info : Fault)

def RunEvent.callback {Pt Fault : Type} : RunEvent Pt Fault → Option (Callback Pt Fault)
  | published frame _ => some (.pointCloud frame)
  | faultMessage info => some (.faultMessage info)
  | _ => none

def callbacks {Pt Fault α : Type} (x : Logged (RunEvent Pt Fault) α) : List (Callback Pt Fault) :=
  x.log.filterMap RunEvent.callback

structure Setup (σ Pt Fault : Type) where
  sensorTimestamp : ℕ → UInt64
  points : ℕ → Pt
  pointData : ℕ → PointDecodeData
  faultMessageInfo : Fault
  settings : UdpParser σ → UdpParser σ
  frameSettings : LidarDecodedFrame Pt → LidarDecodedFrame Pt

/-- The consumer of the packets: the loop of `Lidar::Init`, or `Run` with the parser that was created. -/
inductive Phase (σ Pt Fault : Type) where
  | init (frame : LidarDecodedFrame Pt)
  | run (parserType : ParserType) (state : RunState σ Pt Fault)

def detect (env : Environment) (packet : UdpPacket) : Option ParserType :=
  if packet.packetLen < 6 then none else creatGeneralParser env packet

namespace Phase

variable {σ Pt Fault : Type} (env : Environment) (P : Parser σ Pt Fault) (device : DeviceFilter)
  (setup : Setup σ Pt Fault)

def parserType : Phase σ Pt Fault → Option ParserType
  | init _ => none
  | run parserType _ => some parserType

def consume (packet : UdpPacket) (pointCloudParse : Bool) : Phase σ Pt Fault →
    Logged (RunEvent Pt Fault) (Phase σ Pt Fault)
  | init frame => do
    let d ← relabel .access ((UdpParser.new : UdpParser σ).decodePacket env P frame packet)
    pure (match detect env packet with
      | none => init d.frame
      | some type => run type (.start (setup.settings d.parser) (setup.frameSettings d.frame) setup.faultMessageInfo))
  | run type state => do
    let state ← state.step env P device ⟨some packet, pointCloudParse⟩
    pure (run type state)

def Unmoved (packet : UdpPacket) (pointCloudParse : Bool) (phase : Phase σ Pt Fault) : Prop :=
  (phase.consume env P device setup packet pointCloudParse).val = phase ∧
    callbacks (phase.consume env P device setup packet pointCloudParse) = []

end Phase

lemma decodePacket_new {σ Pt Fault : Type} (env : Environment) (P : Parser σ Pt Fault) (frame : LidarDecodedFrame Pt)
    (packet : UdpPacket) : ((UdpParser.new : UdpParser σ).decodePacket env P frame packet).val.parser =
      { (UdpParser.new : UdpParser σ) with parser := (detect env packet).map P.new } := by
  rw [UdpParser.decodePacket, detect]
  split_ifs with hlen
  · rfl
  · rfl

structure SdkState (σ Pt Fault : Type) where
  isTimeout : Bool
  phase : Phase σ Pt Fault

namespace SdkState

variable {σ Pt Fault : Type} (env : Environment) (P : Parser σ Pt Fault) (device : DeviceFilter)
  (setup : Setup σ Pt Fault)

def start : SdkState σ Pt Fault :=
  ⟨false, .init (.new setup.sensorTimestamp setup.points setup.pointData)⟩

def step (s : SdkState σ Pt Fault) (a : Arrival) : Logged (RunEvent Pt Fault) (SdkState σ Pt Fault) :=
  let switched := a.result.reception.switched s.isTimeout
  if switched.emplaced then do
    let phase ← s.phase.consume env P device setup switched.packet a.pointCloudParse
    pure ⟨switched.isTimeout, phase⟩
  else pure ⟨switched.isTimeout, s.phase⟩

def run (history : List Arrival) : Logged (RunEvent Pt Fault) (SdkState σ Pt Fault) :=
  runs (step env P device setup) history (start setup)

def owned (history : List Arrival) : List Arrival := history.filter fun a => device.Owns a.result

def ownIsTimeout (history : List Arrival) : Bool :=
  Recorder.flagAfter false ((owned device history).map fun a => a.result.reception)

/-- While there is no parser, other devices send nothing from which one is created. Where `is_timeout_` is not
what it would be without them, the packet made of a silence changes nothing. -/
def Undisturbed (history : List Arrival) (s : SdkState σ Pt Fault) (a : Arrival) : Prop :=
  if device.Owns a.result then
    a.result.IsEmpty → s.isTimeout = ownIsTimeout device history ∨
      s.phase.Unmoved env P device setup (a.result.reception.switched false).packet a.pointCloudParse
  else s.phase.parserType = none → (a.result.reception.switched s.isTimeout).emplaced = true →
    detect env (a.result.reception.switched s.isTimeout).packet = none

def UndisturbedRun (history : List Arrival) : Prop :=
  ∀ before a after, history = before ++ a :: after →
    Undisturbed env P device setup before (run env P device setup before).val a

section Lemmas

variable {env P device setup} {s : SdkState σ Pt Fault} {a : Arrival} {history : List Arrival} {packet : UdpPacket}
  {phase : Phase σ Pt Fault} {pointCloudParse : Bool}

lemma callbacks_bind {α β : Type} (x : Logged (RunEvent Pt Fault) α) (f : α → Logged (RunEvent Pt Fault) β) :
    callbacks (x >>= f) = callbacks x ++ callbacks (f x.val) := by
  rw [callbacks, log_bind, List.filterMap_append]
  rfl

@[simp] lemma callbacks_pure {α : Type} (x : α) : callbacks (pure x : Logged (RunEvent Pt Fault) α) = [] := rfl

lemma callbacks_access {α : Type} (x : Logged DecodeEvent α) :
    callbacks (relabel RunEvent.access x : Logged (RunEvent Pt Fault) α) = [] := by
  rw [callbacks, log_relabel, List.filterMap_map]
  exact List.filterMap_eq_nil_iff.mpr fun _ _ => rfl

lemma unmoved_init {frame : LidarDecodedFrame Pt} (hscan : frame.scanComplete = false)
    (h : detect env packet = none) :
    (Phase.init frame : Phase σ Pt Fault).Unmoved env P device setup packet pointCloudParse := by
  have hframe : ((UdpParser.new : UdpParser σ).decodePacket env P frame packet).val.frame = frame := by
    rw [UdpParser.decodePacket]
    split_ifs
    · rw [← hscan]
      rfl
    · rfl
  constructor
  · simp only [Phase.consume, val_bind, val_relabel, val_pure, h, hframe]
  · rw [Phase.consume, callbacks_bind, callbacks_access]
    rfl

lemma silence_packetLen {r : SocketResult} (h : r.IsEmpty) :
    (r.reception.switched false).packet.packetLen = AT128E2X_PACKET_LEN := by
  cases r with
  | error => exact h.elim
  | timeout buffer recvTimestamp => rfl
  | datagram len buffer recvTimestamp ip port =>
    obtain rfl : len = 0 := h
    rfl

lemma silence_not_delimited {r : SocketResult} (h : r.IsEmpty) :
    ¬Delimited env (r.reception.switched false).packet := by
  have hbyte : byteAt env (r.reception.switched false).packet 0 = 0 := by
    cases r with
    | error => exact h.elim
    | timeout buffer recvTimestamp => rfl
    | datagram len buffer recvTimestamp ip port =>
      obtain rfl : len = 0 := h
      rfl
  rintro ⟨h0, -⟩
  rw [hbyte] at h0
  exact absurd h0 (by decide)

lemma unmoved_of_reject {r : SocketResult} {parserType : ParserType} {state : RunState σ Pt Fault} {p : σ}
    (hreject : ∀ frame packet, ¬Delimited env packet → (P.decodePacket p frame packet).val = ⟨-1, p, frame⟩)
    (hparser : state.udpParser.parser = some p) (h : r.IsEmpty) : (Phase.run parserType state).Unmoved env P device
      setup (r.reception.switched false).packet pointCloudParse := by
  have hlen := silence_packetLen h
  have hdecode := hreject state.frame _ (silence_not_delimited h)
  generalize (r.reception.switched false).packet = packet at hlen hdecode ⊢
  have hudp : (state.udpParser.decodePacket env P state.frame packet).val = ⟨-1, state.udpParser, state.frame⟩ := by
    have hlong : ¬packet.packetLen < 6 := by
      rw [hlen]
      decide
    have hsame : { state.udpParser with parser := some p } = state.udpParser := by rw [← hparser]
    simp only [UdpParser.decodePacket, if_neg hlong, hparser, val_bind, hdecode, hsame]
    rw [if_neg fun h => absurd h.2.2 (by decide)]
    rfl
  have hdecoded : (state.decode env P packet).val = (-1, state) := by
    rw [RunState.decode, val_bind, val_relabel, hudp]
    rfl
  have hparse : (state.parsePacket env P packet).val = state ∧ callbacks (state.parsePacket env P packet) = [] := by
    constructor
    · simp [RunState.parsePacket, hdecoded]
    · rw [RunState.parsePacket, callbacks_bind, hdecoded, RunState.decode, callbacks_bind, callbacks_access]
      simp [callbacks_bind, RunState.acceptedIf]
  have hstep : (state.step env P device ⟨some packet, pointCloudParse⟩).val = state ∧
      callbacks (state.step env P device ⟨some packet, pointCloudParse⟩) = [] := by
    have hnot : packet.packetLen ≠ kFaultMessageLength := by
      rw [hlen]
      decide
    simp only [RunState.step, DeviceFilter.classify, if_neg hnot]
    split_ifs
    · exact ⟨rfl, rfl⟩
    · exact ⟨rfl, rfl⟩
    · exact hparse
  constructor
  · rw [Phase.consume, val_bind, hstep.1]
    rfl
  · rw [Phase.consume, callbacks_bind, hstep.2]
    rfl

lemma unmoved_run {r : SocketResult} {parserType : ParserType} {state : RunState σ Pt Fault} {b : Bool}
    (hudp : device.deviceUdpPort ≠ 0) (hfault : device.deviceFaultPort ≠ 0) (hother : ¬device.Owns r)
    (hin : (r.reception.switched b).emplaced = true) :
    (Phase.run parserType state).Unmoved env P device setup (r.reception.switched b).packet pointCloudParse := by
  have hskip : device.classify state.packetIndex ⟨some (r.reception.switched b).packet, pointCloudParse⟩ = .skip := by
    cases r with
    | error => exact absurd hin (by simp [SocketResult.reception, Reception.switched])
    | timeout buffer recvTimestamp => exact absurd trivial hother
    | datagram len buffer recvTimestamp ip port =>
      obtain ⟨hip, hport, htimeout⟩ := SocketResult.switched_sender len buffer recvTimestamp ip port b
      simp only [DeviceFilter.classify]
      split_ifs with hlen hforeign hparse hforeign
      · rfl
      · exfalso
        simp only [DeviceFilter.fromOther, hip, hport, not_and, not_or, not_not] at hforeign
        obtain ⟨hown, hownPort⟩ := hforeign hfault
        exact hother ⟨hown, Or.inr ⟨SocketResult.switched_fault len buffer recvTimestamp ip port hlen, hownPort⟩⟩
      · rfl
      · rfl
      · exfalso
        simp only [DeviceFilter.fromOther, hip, hport, htimeout, true_or, true_and, not_and, not_or, not_not]
          at hforeign
        obtain ⟨hown, hownPort⟩ := hforeign hudp
        exact hother ⟨hown, Or.inl hownPort⟩
  have hstep : state.step env P device ⟨some (r.reception.switched b).packet, pointCloudParse⟩ = pure state := by
    rw [RunState.step, hskip]
  constructor
  · simp only [Phase.consume, hstep, val_bind, val_pure]
  · rw [Phase.consume, hstep]
    rfl

lemma step_isTimeout : (s.step env P device setup a).val.isTimeout =
    (a.result.reception.switched s.isTimeout).isTimeout := by
  rw [step]
  split_ifs <;> rfl

lemma step_phase : (s.step env P device setup a).val.phase =
    if (a.result.reception.switched s.isTimeout).emplaced then
      (s.phase.consume env P device setup (a.result.reception.switched s.isTimeout).packet a.pointCloudParse).val
    else s.phase := by
  rw [step]
  split_ifs <;> rfl

lemma step_callbacks : callbacks (s.step env P device setup a) =
    if (a.result.reception.switched s.isTimeout).emplaced then
      callbacks
        (s.phase.consume env P device setup (a.result.reception.switched s.isTimeout).packet a.pointCloudParse)
    else [] := by
  rw [step]
  split_ifs
  · rw [callbacks_bind, callbacks_pure, List.append_nil]
  · rfl

lemma run_append : run env P device setup (history ++ [a]) =
    ⟨((run env P device setup history).val.step env P device setup a).val,
      (run env P device setup history).log ++
        ((run env P device setup history).val.step env P device setup a).log⟩ := by
  rw [run, runs_append]
  simp [runs, run]

lemma run_isTimeout : (run env P device setup history).val.isTimeout =
    Recorder.flagAfter false (history.map fun a => a.result.reception) := by
  induction history using List.reverseRecOn with
  | nil => rfl
  | append_singleton history a ih =>
    rw [run_append, step_isTimeout, ih, List.map_append, List.map_singleton, Recorder.flagAfter_append]

lemma run_callbacks : callbacks (⟨((run env P device setup history).val.step env P device setup a).val,
      (run env P device setup history).log ++ ((run env P device setup history).val.step env P device setup a).log⟩ :
        Logged (RunEvent Pt Fault) (SdkState σ Pt Fault)) =
    callbacks (run env P device setup history) ++
      callbacks ((run env P device setup history).val.step env P device setup a) := by
  rw [callbacks, List.filterMap_append]
  rfl

lemma consume_scanComplete (hscan : ∀ frame, phase = .init frame → frame.scanComplete = false)
    {frame : LidarDecodedFrame Pt}
    (h : (phase.consume env P device setup packet pointCloudParse).val = .init frame) :
    frame.scanComplete = false := by
  cases phase with
  | init frame₀ =>
    cases hdetect : detect env packet with
    | none =>
      have hsame : (Phase.init frame₀ : Phase σ Pt Fault).Unmoved env P device setup packet pointCloudParse :=
        unmoved_init (hscan frame₀ rfl) hdetect
      rw [hsame.1] at h
      exact hscan frame h
    | some type =>
      simp only [Phase.consume, val_bind, val_relabel, val_pure, hdetect] at h
      cases h
  | run type state => cases h

lemma step_other (hudp : device.deviceUdpPort ≠ 0) (hfault : device.deviceFaultPort ≠ 0)
    (hscan : ∀ frame, s.phase = .init frame → frame.scanComplete = false) (hother : ¬device.Owns a.result)
    (h : Undisturbed env P device setup history s a) :
    (s.step env P device setup a).val.phase = s.phase ∧ callbacks (s.step env P device setup a) = [] := by
  rw [Undisturbed, if_neg hother] at h
  rw [step_phase, step_callbacks]
  split_ifs with hin
  · have hunmoved : s.phase.Unmoved env P device setup (a.result.reception.switched s.isTimeout).packet
        a.pointCloudParse := by
      cases hphase : s.phase with
      | init frame => exact unmoved_init (hscan frame hphase) (h (by rw [hphase]; rfl) hin)
      | run parserType state => exact unmoved_run hudp hfault hother hin
    exact hunmoved
  · exact ⟨rfl, rfl⟩

lemma step_unmoved (hempty : a.result.IsEmpty)
    (h : s.phase.Unmoved env P device setup (a.result.reception.switched false).packet a.pointCloudParse) :
    (s.step env P device setup a).val.phase = s.phase ∧ callbacks (s.step env P device setup a) = [] := by
  rw [step_phase, step_callbacks, (SocketResult.switched_of_isEmpty hempty).1]
  cases s.isTimeout with
  | false => exact h
  | true => exact ⟨rfl, rfl⟩

lemma step_own {t : SdkState σ Pt Fault} (hphase : s.phase = t.phase)
    (hflag : t.isTimeout = ownIsTimeout device history) (howns : device.Owns a.result)
    (h : Undisturbed env P device setup history s a) :
    (s.step env P device setup a).val.phase = (t.step env P device setup a).val.phase ∧
      callbacks (s.step env P device setup a) = callbacks (t.step env P device setup a) := by
  rw [Undisturbed, if_pos howns, ← hflag] at h
  by_cases hempty : a.result.IsEmpty
  · rcases h hempty with hsame | hunmoved
    · obtain ⟨isTimeout, phase⟩ := s
      obtain ⟨isTimeout', phase'⟩ := t
      obtain rfl : phase = phase' := hphase
      obtain rfl : isTimeout = isTimeout' := hsame
      exact ⟨rfl, rfl⟩
    · obtain ⟨hs, hnone⟩ := step_unmoved hempty hunmoved
      rw [hphase] at hunmoved
      obtain ⟨ht, hnone'⟩ := step_unmoved hempty hunmoved
      exact ⟨hs.trans (hphase.trans ht.symm), hnone.trans hnone'.symm⟩
  · obtain ⟨hpacket, hin⟩ := SocketResult.switched_of_not_isEmpty (b := s.isTimeout) (c := t.isTimeout) hempty
    rw [step_phase, step_phase, step_callbacks, step_callbacks, hpacket, hin, hphase]
    exact ⟨rfl, rfl⟩

lemma run_scanComplete : ∀ frame, (run env P device setup history).val.phase = .init frame →
    frame.scanComplete = false := by
  induction history using List.reverseRecOn with
  | nil =>
    intro frame h
    cases h
    rfl
  | append_singleton history a ih =>
    intro frame h
    rw [run_append] at h
    simp only [step_phase] at h
    split_ifs at h with hin
    · exact consume_scanComplete ih h
    · exact ih frame h

lemma run_owned (hudp : device.deviceUdpPort ≠ 0) (hfault : device.deviceFaultPort ≠ 0)
    (h : UndisturbedRun env P device setup history) :
    (run env P device setup history).val.phase = (run env P device setup (owned device history)).val.phase ∧
      callbacks (run env P device setup history) = callbacks (run env P device setup (owned device history)) := by
  induction history using List.reverseRecOn with
  | nil => exact ⟨rfl, rfl⟩
  | append_singleton history a ih =>
    have hlast := h history a [] rfl
    obtain ⟨hphase, hcallbacks⟩ := ih fun before b after hb =>
      h before b (after ++ [a]) (by rw [hb, List.append_assoc, List.cons_append])
    have hscan : ∀ frame, (run env P device setup history).val.phase = .init frame → frame.scanComplete = false :=
      run_scanComplete
    rw [run_append, run_callbacks]
    by_cases howns : device.Owns a.result
    · have howned : owned device (history ++ [a]) = owned device history ++ [a] := by
        simp [owned, howns]
      have hflag : (run env P device setup (owned device history)).val.isTimeout = ownIsTimeout device history :=
        run_isTimeout
      obtain ⟨hstep, hsame⟩ := step_own hphase hflag howns hlast
      rw [howned, run_append, run_callbacks, ← hcallbacks, hsame]
      exact ⟨hstep, rfl⟩
    · have howned : owned device (history ++ [a]) = owned device history := by
        simp [owned, howns]
      obtain ⟨hstep, hnone⟩ := step_other hudp hfault hscan howns hlast
      rw [howned, ← hphase, ← hcallbacks, hstep, hnone, List.append_nil]
      exact ⟨rfl, rfl⟩

end Lemmas

variable {env P device setup}

/-- Two histories that agree on the configured device lead to the same parser type and the same callbacks. -/
theorem run_isolated (hudp : device.deviceUdpPort ≠ 0) (hfault : device.deviceFaultPort ≠ 0)
    {history₁ history₂ : List Arrival} (hsame : owned device history₁ = owned device history₂)
    (h₁ : UndisturbedRun env P device setup history₁) (h₂ : UndisturbedRun env P device setup history₂) :
    (run env P device setup history₁).val.phase.parserType = (run env P device setup history₂).val.phase.parserType ∧
      callbacks (run env P device setup history₁) = callbacks (run env P device setup history₂) := by
  obtain ⟨hphase₁, hcallbacks₁⟩ := run_owned hudp hfault h₁
  obtain ⟨hphase₂, hcallbacks₂⟩ := run_owned hudp hfault h₂
  rw [hphase₁, hphase₂, hcallbacks₁, hcallbacks₂, hsame]
  exact ⟨rfl, rfl⟩

lemma undisturbedRun_owned (history : List Arrival) : UndisturbedRun env P device setup (owned device history) := by
  intro before a after h
  have hall : ∀ b ∈ before ++ a :: after, device.Owns b.result := by
    intro b hb
    rw [← h, owned, List.mem_filter] at hb
    exact of_decide_eq_true hb.2
  have hbefore : owned device before = before := by
    rw [owned, List.filter_eq_self]
    exact fun b hb => decide_eq_true (hall b (List.mem_append_left _ hb))
  rw [Undisturbed, if_pos (hall a (List.mem_append_right _ List.mem_cons_self))]
  intro _
  left
  rw [ownIsTimeout, hbefore, run_isTimeout]

lemma undisturbedRun_append {history : List Arrival} {a : Arrival} (h : UndisturbedRun env P device setup history)
    (ha : Undisturbed env P device setup history (run env P device setup history).val a) :
    UndisturbedRun env P device setup (history ++ [a]) := by
  intro before b after hsplit
  rcases after.eq_nil_or_concat with rfl | ⟨after', c, rfl⟩
  · obtain ⟨rfl, hb⟩ := List.append_inj' hsplit rfl
    obtain rfl := List.singleton_inj.mp hb
    exact ha
  · rw [List.concat_eq_append, ← List.cons_append, ← List.append_assoc] at hsplit
    exact h before b after' (List.append_inj' hsplit rfl).1

def exampleDevice : DeviceFilter := .init 1 10000 9000

def exampleSetup : Setup GeneralParser LidarPointXYZICRT Unit := ⟨default, default, default, (), id, id⟩

def exampleDatagram (bytes : List UInt8) (ip : UInt32) : Arrival :=
  ⟨.datagram bytes.length (fun i => bytes.getD i 0) 0 ip 10000, true⟩

def exampleSilence : Arrival := ⟨.timeout default 0, true⟩

def exampleHistory : List Arrival :=
  [] ++ [exampleDatagram [0, 0, 0, 0, 0, 0] 2] ++ [exampleDatagram [0xEE, 0xFF, 6, 1, 0, 0] 1] ++ [exampleSilence] ++
    [exampleDatagram [0, 0, 0, 0, 0, 0] 2] ++ [exampleSilence]

theorem run_isolated_silences :
    let P := udp61 default LidarPointXYZICRT Unit
    (run default P exampleDevice exampleSetup exampleHistory).val.phase.parserType =
        (run default P exampleDevice exampleSetup (owned exampleDevice exampleHistory)).val.phase.parserType ∧
      callbacks (run default P exampleDevice exampleSetup exampleHistory) =
        callbacks (run default P exampleDevice exampleSetup (owned exampleDevice exampleHistory)) := by
  have hall : UndisturbedRun default (udp61 default LidarPointXYZICRT Unit) exampleDevice exampleSetup
      exampleHistory := by
    refine undisturbedRun_append (undisturbedRun_append (undisturbedRun_append (undisturbedRun_append
      (undisturbedRun_append (fun before a after h => absurd h (by simp)) ?_) ?_) ?_) ?_) ?_
    · exact fun _ _ => by decide
    · exact fun h => absurd (show 6 = 0 from h) (by decide)
    · exact fun _ => Or.inl rfl
    · exact fun h => absurd h (by decide)
    · refine fun _ => Or.inr (unmoved_of_reject (p := default) (fun frame packet h => ?_) rfl trivial)
      simp only [udp61, Udp61Parser.decodePacket_val]
      rw [if_neg fun hboth => h hboth.2]
  exact run_isolated (by decide) (by decide) (by simp [owned]) hall (undisturbedRun_owned exampleHistory)

/-- The packet of another device comes first, and decides on the parser. -/
theorem run_other_detected :
    ¬∀ device : DeviceFilter, device.deviceUdpPort ≠ 0 → device.deviceFaultPort ≠ 0 →
      ∀ history₁ history₂ : List Arrival, owned device history₁ = owned device history₂ →
        (run default (udp61 default LidarPointXYZICRT Unit) device exampleSetup history₁).val.phase.parserType =
          (run default (udp61 default LidarPointXYZICRT Unit) device exampleSetup history₂).val.phase.parserType := by
  intro h
  have hown := h exampleDevice (by decide) (by decide) [exampleDatagram [0xEE, 0xFF, 6, 1, 0, 0] 1]
    [exampleDatagram [0xEE, 0xFF, 1, 4, 0, 0] 2, exampleDatagram [0xEE, 0xFF, 6, 1, 0, 0] 1] rfl
  exact absurd hown (by decide)

end SdkState

end HesaiSdk.Driver
