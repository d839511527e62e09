import HesaiSdk.Driver.FrameInvariant
import HesaiSdk.UdpParser.Dispatch
import HesaiSdk.UdpProtocol.FaultMessage

/-! The fault messages that a run hands on. -/

namespace HesaiSdk.Driver

open Library Library.ByteLayout Lidar UdpProtocol Parsing

def RunEvent.faultInfo {Pt Fault : Type} : RunEvent Pt Fault → Option Fault
  | .faultMessage info => some info
  | _ => none

/-- The fault message of a turn, if it comes from the device. -/
def DeviceFilter.faultPacket (device : DeviceFilter) (fetch : Fetch) : Option UdpPacket :=
  match fetch.packet with
  | none => none
  | some packet =>
    if packet.packetLen = kFaultMessageLength then
      if device.deviceFaultPort ≠ 0 ∧ device.fromOther device.deviceFaultPort packet then none
      else some packet
    else none

lemma DeviceFilter.faultPacket_of_classify (device : DeviceFilter) (packetIndex : ℕ) (fetch : Fetch) :
    device.faultPacket fetch = match device.classify packetIndex fetch with
      | .fault packet => some packet
      | _ => none := by
  rw [DeviceFilter.faultPacket, DeviceFilter.classify]
  cases fetch.packet with
  | none => rfl
  | some packet =>
    dsimp only
    split_ifs <;> rfl

namespace RunState

section Silence

variable {σ Pt Fault : Type} {env : Environment} {P : Parser σ Pt Fault} {s : RunState σ Pt Fault} {packet : UdpPacket}

abbrev FaultFree {α : Type} (x : Logged (RunEvent Pt Fault) α) : Prop := AllLog (fun e => e.faultInfo = none) x

lemma faultFree_decode : FaultFree (s.decode env P packet) := by
  intro e he
  rw [decode_log] at he
  obtain ⟨_, _, rfl⟩ := List.mem_map.mp he
  rfl

lemma faultFree_append : FaultFree (s.append P packet) := by
  refine allLog_bind.mpr ⟨allLog_bind.mpr ⟨allLog_note.mpr rfl, allLog_bind.mpr ⟨?_, allLog_pure _⟩⟩,
    allLog_bind.mpr ⟨allLog_note.mpr rfl, allLog_pure _⟩⟩
  intro e he
  obtain ⟨_, _, rfl⟩ := List.mem_map.mp he
  rfl

lemma faultFree_splitFrame : FaultFree (s.splitFrame env P packet) := by
  refine allLog_bind.mpr ⟨allLog_note.mpr ?_, ?_⟩
  · rw [publish]
    split_ifs <;> rfl
  · split_ifs
    · exact allLog_pure _
    · exact allLog_bind.mpr ⟨faultFree_decode, faultFree_append⟩

lemma faultFree_overflow : FaultFree s.overflow := by
  rw [overflow]
  split_ifs
  · exact allLog_bind.mpr ⟨allLog_note.mpr rfl, allLog_pure _⟩
  · exact allLog_pure _

lemma faultFree_parsePacket : FaultFree (s.parsePacket env P packet) := by
  refine allLog_bind.mpr ⟨faultFree_decode, allLog_bind.mpr ⟨?_, ?_⟩⟩
  · rw [acceptedIf]
    split_ifs
    · exact allLog_note.mpr rfl
    · exact allLog_pure _
  · split_ifs
    · exact allLog_pure _
    · exact faultFree_splitFrame
    · exact allLog_bind.mpr ⟨allLog_pure _, faultFree_overflow⟩
    · exact allLog_bind.mpr ⟨faultFree_append, faultFree_overflow⟩

end Silence

section Keeping

variable {σ Pt Fault : Type} {env : Environment} {P : Parser σ Pt Fault} {s : RunState σ Pt Fault} {packet : UdpPacket}
  {Q : UdpParser σ → Prop}

/-- Only decoding changes the parser. -/
lemma parsePacket_keeps (hQ : ∀ u frame packet, Q u → Q (u.decodePacket env P frame packet).val.parser)
    (h : Q s.udpParser) : Q (s.parsePacket env P packet).val.udpParser := by
  have hdecode (t : RunState σ Pt Fault) (ht : Q t.udpParser) : Q (t.decode env P packet).val.2.udpParser := by
    rw [decode_val]
    exact hQ _ _ _ ht
  have hoverflow (t : RunState σ Pt Fault) : t.overflow.val.udpParser = t.udpParser := by
    rw [overflow]
    split_ifs <;> rfl
  have happend (t : RunState σ Pt Fault) : (t.append P packet).val.udpParser = t.udpParser := by
    rw [append_val]
    rfl
  have hfirst := hdecode s h
  rw [parsePacket, val_bind, val_bind]
  split_ifs
  · exact hfirst
  · rw [splitFrame, val_bind]
    split_ifs
    · exact hfirst
    · rw [val_bind, happend]
      exact hdecode _ hfirst
  · rw [val_bind, hoverflow]
    exact hfirst
  · rw [val_bind, hoverflow, happend]
    exact hfirst

end Keeping

section Runs

variable {Pt : Type} [Point Pt] {env : Environment} {device : DeviceFilter}

/-- The parser of the driver, with what the two classes make of a fault message. -/
def faultParser (env : Environment) (Pt : Type) [Point Pt] : Parser (Σ type, ParserState type) Pt FaultMessageInfo :=
  (anyParser env Pt (fun packet _ => FaultMessageVersion43.parserFaultMessage env (byteAt env packet))
    fun packet _ => FaultMessageVersion47.parserFaultMessage env (byteAt env packet)).toParser

def IsOf (type : ParserType) (u : UdpParser (Σ type, ParserState type)) : Prop := u.parser.map Sigma.fst = some type

lemma IsOf.decodePacket {type : ParserType} (u : UdpParser (Σ type, ParserState type))
    (frame : LidarDecodedFrame Pt) (packet : UdpPacket) (h : IsOf type u) :
    IsOf type (u.decodePacket env (faultParser env Pt) frame packet).val.parser := by
  obtain ⟨p, hp, htype⟩ := Option.map_eq_some_iff.mp h
  by_cases hlen : packet.packetLen < 6
  · rw [UdpParser.decodePacket_val_of_short hlen]
    exact h
  · obtain ⟨-, -, hparser, -⟩ := UdpParser.decodePacket_val_of_some env (faultParser env Pt) frame hp hlen
    rw [IsOf, hparser, ← htype]
    rfl

/-- The class that this message is meant for. -/
def receiver : FaultMessage → ParserType
  | .version43 _ => .udp43
  | .version47 _ => .udp47

variable {s : RunState (Σ type, ParserState type) Pt FaultMessageInfo} {m : FaultMessage} {packet : UdpPacket}

lemma parseFault_of_holds (htype : IsOf (receiver m) s.udpParser) (h : Holds (byteAt env packet) 0 m.encode) :
    s.parseFault (faultParser env Pt) packet = ⟨{ s with faultMessageInfo := m.info env }, [.faultMessage (m.info env)]⟩ := by
  obtain ⟨p, hp, hreceiver⟩ := Option.map_eq_some_iff.mp htype
  have hinfo : (faultParser env Pt).parserFaultMessage p packet s.faultMessageInfo = m.info env := by
    rw [faultParser, anyParser_fault, hreceiver]
    cases m with
    | version43 m => exact FaultMessageVersion43.parserFaultMessage_of_holds env h
    | version47 m => exact FaultMessageVersion47.parserFaultMessage_of_holds env h
  have hreturn : s.udpParser.parserFaultMessage (faultParser env Pt) packet s.faultMessageInfo = (0, m.info env) := by
    rw [UdpParser.parserFaultMessage, hp, ← hinfo]
  rw [parseFault, hreturn]
  rfl

/-- Whatever else comes in, the caller is told of each fault message of the device, once and in order. -/
theorem run_faultMessages (env : Environment) (device : DeviceFilter) (type : ParserType)
    (s : RunState (Σ type, ParserState type) Pt FaultMessageInfo) (htype : IsOf type s.udpParser) (fetches : List Fetch)
    (sent : List (FaultMessage × UdpPacket)) (hreceiver : ∀ m ∈ sent, receiver m.1 = type)
    (hsent : fetches.filterMap device.faultPacket = sent.map fun m => m.1.writeTo m.2) :
    (s.run env (faultParser env Pt) device fetches).log.filterMap RunEvent.faultInfo =
      sent.map fun m => m.1.info env := by
  induction fetches generalizing s sent with
  | nil =>
    rw [List.map_eq_nil_iff.mp hsent.symm]
    rfl
  | cons fetch fetches ih =>
    rw [run, runs, List.filterMap_append]
    rw [List.filterMap_cons, device.faultPacket_of_classify s.packetIndex] at hsent
    rw [step]
    cases hclass : device.classify s.packetIndex fetch with
    | skip =>
      rw [hclass] at hsent
      exact ih s htype sent hreceiver hsent
    | fault packet =>
      rw [hclass] at hsent
      obtain ⟨⟨m, raw⟩, sent, rfl, hfirst, hrest⟩ := List.map_eq_cons_iff.mp hsent.symm
      obtain rfl := hreceiver (m, raw) List.mem_cons_self
      dsimp only at hfirst ⊢
      rw [← hfirst, parseFault_of_holds htype (m.holds_writeTo raw env)]
      refine congrArg (List.cons (m.info env)) (ih { s with faultMessageInfo := m.info env } htype sent ?_ hrest.symm)
      exact fun m hm => hreceiver m (List.mem_cons_of_mem _ hm)
    | decode packet =>
      rw [hclass] at hsent
      have hsilent : (s.parsePacket env (faultParser env Pt) packet).log.filterMap RunEvent.faultInfo = [] :=
        List.filterMap_eq_nil_iff.mpr faultFree_parsePacket
      dsimp only
      rw [hsilent]
      exact ih _ (parsePacket_keeps IsOf.decodePacket htype) sent hreceiver hsent

/-- Another fault. -/
def laterFault : FaultMessageVersion43 :=
  { sampleFault43 with
    utcTime := fun _ => 1
    operateState := 2
    faultCodeId := 7
    faultCode := 0x00C00204
    softwareVersion := 12 }

/-- A packet of points of the AT128. -/
def atPacket : UdpPacket := UdpPacket.ofBytes ([0xEE, 0xFF, 4, 3, 0, 0, 1, 1, 0, 4, 0, 0] ++ List.replicate 50 0)

/-- Fault messages among packets of points and turns without a packet, before `init_finish_` and after. -/
def faultFetches : List Fetch :=
  [⟨some ((FaultMessage.version43 sampleFault43).writeTo default), false⟩, ⟨some atPacket, false⟩, ⟨none, true⟩,
    ⟨some atPacket, true⟩, ⟨some ((FaultMessage.version43 laterFault).writeTo default), true⟩, ⟨some atPacket, true⟩,
    ⟨some ((FaultMessage.version43 sampleFault43).writeTo default), true⟩]

def faultStart : RunState (Σ type, ParserState type) LidarPointXYZICRT FaultMessageInfo :=
  .start ⟨some ⟨.udp43, { (default : Udp43Parser) with getCorrectionFile := true }⟩, true, 0, 0, 0, true, 1⟩ default
    (sampleFault43.info default)

theorem run_faultMessages_example :
    (sampleFault43.info default).faultcode ≠ (laterFault.info default).faultcode ∧
    (faultStart.run default (faultParser default LidarPointXYZICRT) ⟨0, 0, 0⟩ faultFetches).val.packetIndex = 2 ∧
    (faultStart.run default (faultParser default LidarPointXYZICRT) ⟨0, 0, 0⟩ faultFetches).log.filterMap
      RunEvent.faultInfo = [sampleFault43.info default, laterFault.info default, sampleFault43.info default] := by
  refine ⟨by decide, by decide +kernel, ?_⟩
  exact run_faultMessages default ⟨0, 0, 0⟩ .udp43 faultStart rfl faultFetches [(.version43 sampleFault43, default),
    (.version43 laterFault, default), (.version43 sampleFault43, default)] (by simp [receiver]) (by rfl)

end Runs

end RunState

end HesaiSdk.Driver
