import HesaiSdk.UdpParser.WalkingParser

namespace HesaiSdk.Parsing

open Library Lidar UdpProtocol

section Formats

variable (env : Environment)

def Udp31Parser.format : WalkedFormat where
  Opens := Delimited env
  layout packet := V31.layout (V31.readHeader env packet).val
  distanceUnit packet := (V31.readHeader env packet).val.getDistUnit
  lidarTime packet := (V31.getMicroLidarTime env packet (V31.layout (V31.readHeader env packet).val).endOffset).val

def Udp32Parser.format : WalkedFormat where
  Opens := Delimited env
  layout packet := V32.layout (V32.readHeader env packet).val
  distanceUnit packet := (V32.readHeader env packet).val.getDistUnit
  lidarTime packet := (V32.getMicroLidarTime env packet (V32.tailOffset (V32.readHeader env packet).val)).val

def UdpP64Parser.format : WalkedFormat where
  Opens := Delimited env
  layout packet := P64.layout (P64.readHeader env packet).val
  distanceUnit packet := (P64.readHeader env packet).val.getDistUnit
  lidarTime packet := (P64.getMicroLidarTime env packet (P64.layout (P64.readHeader env packet).val).endOffset).val

def UdpP40Parser.format : WalkedFormat where
  Opens packet := byteAt env packet 0 = 0xFF ∧ byteAt env packet 1 = 0xEE
  layout _ := P40.layout
  distanceUnit _ := P40.DISTANCEUNIT
  lidarTime packet := (P40.getMicroLidarTime env packet P40.layout.endOffset).val

end Formats

section Bodies

variable {env : Environment} {packet : UdpPacket} {Pt : Type} {frame : LidarDecodedFrame Pt} {P : ℕ → Prop}

lemma fireTimes_eq_none {g : GeneralParser} (h : g.getFiretimeFile = false) (b j : ℕ) : g.fireTimes b j = none := by
  simp [GeneralParser.fireTimes, h]

lemma Udp31Parser.walked_decodeBody (p : GeneralParser) :
    Walked env (format env) p.getFiretimeFile packet frame
      (decodeBody env packet p frame (V31.readHeader env packet).val).val.frame := by
  simp only [decodeBody, val_bind, val_pure, storeSensorTimestamp_val]
  refine ⟨⟨rfl, rfl, rfl, rfl, rfl, rfl, rfl, fun i hi => Function.update_of_ne hi _ _,
    Shape.otherSlots fun i hi => ?_⟩, rfl, rfl, Function.update_self _ _ _, fun hfire j hj => ?_⟩
  · exact mechanicalWalk_of_not_slot rfl rfl hi
  · refine mechanicalWalk_measures (fireTimes_eq_none ?_) (fun _ _ => ⟨rfl, rfl, rfl⟩) rfl rfl hj
    simpa using hfire

lemma UdpP64Parser.walked_decodeBody (p : GeneralParser) :
    Walked env (format env) p.getFiretimeFile packet frame
      (decodeBody env packet p frame (P64.readHeader env packet).val).val.frame := by
  simp only [decodeBody, val_bind, val_pure, storeSensorTimestamp_val]
  refine ⟨⟨rfl, rfl, rfl, rfl, rfl, rfl, rfl, fun i hi => Function.update_of_ne hi _ _,
    Shape.otherSlots fun i hi => ?_⟩, rfl, rfl, Function.update_self _ _ _, fun hfire j hj => ?_⟩
  · exact mechanicalWalk_of_not_slot rfl rfl hi
  · refine mechanicalWalk_measures (fireTimes_eq_none ?_) (fun _ _ => ⟨rfl, rfl, rfl⟩) rfl rfl hj
    simpa using hfire

lemma UdpP40Parser.walked_decodeBody (p : GeneralParser) :
    Walked env (format env) p.getFiretimeFile packet frame (decodeBody env packet p frame).val.frame := by
  have hblock : ((format env).shape packet).blockNum = P40.layout.blockNum := rfl
  have hlaser : ((format env).shape packet).laserNum = P40.layout.laserNum := rfl
  simp only [decodeBody, val_bind, val_pure, storeSensorTimestamp_val]
  refine ⟨⟨rfl, rfl, rfl, rfl, rfl, rfl, rfl, fun i hi => Function.update_of_ne hi _ _,
    Shape.otherSlots fun i hi => ?_⟩, rfl, rfl, Function.update_self _ _ _, fun hfire j hj => ?_⟩
  · dsimp only
    exact mechanicalWalk_of_not_slot hblock hlaser hi
  · dsimp only
    refine mechanicalWalk_measures (fireTimes_eq_none ?_) (fun _ _ => ⟨rfl, rfl, rfl⟩) hblock hlaser hj
    simpa using hfire

lemma Udp32Parser.walked_decodeBody (p : Udp32Parser) :
    Walked env (format env) p.getFiretimeFile packet frame
      (decodeBody env packet p frame (V32.readHeader env packet).val).val.frame := by
  have hstore (h : BodyHeader) (o : ℕ) (slot : PointDecodeData) :
      Measures slot (storeConfidence env packet h o slot).val := by
    rw [storeConfidence]
    split_ifs
    · exact ⟨rfl, rfl, rfl⟩
    · exact ⟨rfl, rfl, rfl⟩
  simp only [decodeBody, val_bind, val_pure, storeSensorTimestamp_val]
  refine ⟨⟨rfl, rfl, rfl, rfl, rfl, rfl, rfl, fun i hi => Function.update_of_ne hi _ _,
    Shape.otherSlots fun i hi => ?_⟩, rfl, rfl, Function.update_self _ _ _, fun hfire j hj => ?_⟩
  · exact mechanicalWalk_of_not_slot rfl rfl hi
  · refine mechanicalWalk_measures (fun b j => ?_) (hstore _) rfl rfl hj
    simp [fireTimes, hfire]

lemma allows_walk {l : BodyLayout} {rotationFlag : ℤ} {distanceUnit : ℚ} {fireTimes : FireTimes}
    {store : ℕ → PointDecodeData → Logged DecodeEvent PointDecodeData} {packetNum : ℕ}
    {pointData : ℕ → PointDecodeData}
    (hfire : ∀ b j time, fireTimes b j = some time → AllLog (Bounds.Allows { pointData := P }) time)
    (hstore : ∀ o slot, AllLog (Bounds.Allows { pointData := P }) (store o slot)) :
    AllLog (Bounds.Allows { pointData := P })
        (mechanicalWalk env packet l fireTimes rotationFlag store packetNum pointData) ↔
      ∀ i, Shape.Slot ⟨l.blockNum, l.laserNum, distanceUnit, 0⟩ packetNum i → P i :=
  (allows_mechanicalWalk (fun _ => trivial) hfire hstore).trans
    (@Shape.forall_block ⟨l.blockNum, l.laserNum, distanceUnit, 0⟩ P packetNum)

lemma Udp32Parser.decodeBody_keeps (p : Udp32Parser) (h : BodyHeader) :
    (decodeBody env packet p frame h).val.ret = 0 ∧
      (decodeBody env packet p frame h).val.parser.toCalibration = p.toCalibration := by
  simp only [decodeBody, countPacket, isNeedFrameSplit, val_bind, val_ite, val_pure, true_and]
  split_ifs <;> simp

lemma Udp32Parser.decodePacket_passed {p : Udp32Parser} (h : p.getCorrectionFile = true ∧ Delimited env packet) :
    (decodePacket env packet p frame).val = (decodeBody env packet p frame (V32.readHeader env packet).val).val := by
  rw [decodePacket, afterTests_val, if_pos h, val_bind]

lemma Udp31Parser.allows_decodeBody {p : GeneralParser} :
    AllLog (Bounds.Allows { pointData := P }) (decodeBody env packet p frame (V31.readHeader env packet).val) ↔
      ∀ i, ((format env).shape packet).Slot frame.packetNum i → P i := by
  simp only [decodeBody, allLog_bind, allows_storeSensorTimestamp, V31.getMicroLidarTime, allows_getMicroLidarTimeU64,
    timeBytes_true, allows_readU32, allows_readU16, allows_readU8, allLog_note, allLog_pure, implies_true, true_and,
    and_true, Bounds.Allows]
  exact allows_walk (GeneralParser.allows_fireTimes _) fun _ _ => allLog_pure _

lemma UdpP64Parser.allows_decodeBody {p : GeneralParser} :
    AllLog (Bounds.Allows { pointData := P }) (decodeBody env packet p frame (P64.readHeader env packet).val) ↔
      ∀ i, ((format env).shape packet).Slot frame.packetNum i → P i := by
  simp only [decodeBody, allLog_bind, allows_storeSensorTimestamp, P64.getMicroLidarTime, allows_getMicroLidarTimeU64,
    timeBytes_true, allows_readU32, allows_readU16, allows_readU8, allLog_note, allLog_pure, implies_true, true_and,
    and_true, Bounds.Allows]
  exact allows_walk (GeneralParser.allows_fireTimes _) fun _ _ => allLog_pure _

lemma UdpP40Parser.allows_decodeBody {p : GeneralParser} :
    AllLog (Bounds.Allows { pointData := P }) (decodeBody env packet p frame) ↔
      ∀ i, ((format env).shape packet).Slot frame.packetNum i → P i := by
  simp only [decodeBody, allLog_bind, allows_storeSensorTimestamp, P40.getMicroLidarTime, P64.getMicroLidarTime,
    allows_getMicroLidarTimeU64, timeBytes_true, allows_readU32, allows_readU16, allows_readU8, allLog_note,
    allLog_pure, implies_true, true_and, and_true, Bounds.Allows]
  exact allows_walk (GeneralParser.allows_fireTimes _) fun _ _ => allLog_pure _

lemma Udp32Parser.allows_decodeBody {p : Udp32Parser} :
    AllLog (Bounds.Allows { pointData := P }) (decodeBody env packet p frame (V32.readHeader env packet).val) ↔
      ∀ i, ((format env).shape packet).Slot frame.packetNum i → P i := by
  have hcount (h : BodyHeader) (g : GeneralParser) :
      AllLog (Bounds.Allows { pointData := P }) (countPacket env packet h g) := by
    simp only [countPacket, V32.getMicroLidarTime, allLog_bind, allows_getMicroLidarTimeU64, timeBytes_true,
      allLog_pure, and_true]
    split_ifs <;> simp [Bounds.Allows]
  have hfire (h : BodyHeader) (motorSpeed : UInt16) (modeFlag returnMode : UInt8) (b j : ℕ)
      (time : Logged DecodeEvent ℚ) (htime : p.fireTimes h motorSpeed modeFlag returnMode b j = some time) :
      AllLog (Bounds.Allows { pointData := P }) time := by
    simp only [fireTimes] at htime
    split_ifs at htime
    obtain rfl := Option.some.inj htime
    exact allLog_pure _
  have hstore (h : BodyHeader) (o : ℕ) (slot : PointDecodeData) :
      AllLog (Bounds.Allows { pointData := P }) (storeConfidence env packet h o slot) := by
    rw [storeConfidence]
    split_ifs <;> simp
  have hmode (h : BodyHeader) (o : ℕ) : AllLog (Bounds.Allows { pointData := P })
      (if h.blockNum = 0 then pure 0 else readU8 env packet o) := by
    split_ifs <;> simp
  have htimed (h : BodyHeader) : AllLog (Bounds.Allows { pointData := P })
      (if V32.hasConfidenceLevel h then countPacket env packet h p.toGeneralParser else pure p.toGeneralParser) := by
    split_ifs
    · exact hcount h _
    · exact allLog_pure _
  simp only [decodeBody, allLog_bind, allows_storeSensorTimestamp, V32.getMicroLidarTime, allows_getMicroLidarTimeU64,
    timeBytes_true, allows_readU16, allows_readU8, allLog_pure, hmode, htimed, implies_true, true_and, and_true]
  exact allows_walk (hfire _ _ _ _) (hstore _)

end Bodies

section Accesses

variable {env : Environment} {packet : UdpPacket} {Pt : Type} {frame : LidarDecodedFrame Pt} {P : ℕ → Prop}

lemma UdpP40Parser.allows_decodePacket {p : GeneralParser} :
    AllLog (Bounds.Allows { pointData := P }) (decodePacket env packet p frame) ↔
      (p.getCorrectionFile = true ∧ (format env).Opens packet →
        AllLog (Bounds.Allows { pointData := P }) (decodeBody env packet p frame)) := by
  rw [decodePacket, afterSob]
  by_cases hget : p.getCorrectionFile = true
  · by_cases h0 : byteAt env packet 0 = 0xFF
    · by_cases h1 : byteAt env packet 1 = 0xEE <;> simp [hget, h0, h1, reject, format]
    · simp [hget, h0, reject, format]
  · simp [hget, reject]

lemma V31.allows_readHeader : AllLog (Bounds.Allows { pointData := P }) (V31.readHeader env packet) := by
  simp [V31.readHeader]

lemma V32.allows_readHeader : AllLog (Bounds.Allows { pointData := P }) (V32.readHeader env packet) := by
  simp [V32.readHeader]

lemma P64.allows_readHeader : AllLog (Bounds.Allows { pointData := P }) (P64.readHeader env packet) := by
  simp [P64.readHeader]

end Accesses

section Instances

variable (env : Environment) (Pt Fault : Type) [Point Pt]

def udp31Walking : WalkingParser env (Udp31Parser.format env) GeneralParser Pt Fault where
  toParser := udp31 env Pt Fault
  calibration p := p.toCalibration
  form := Udp31Parser.computeForm Pt
  computes _ := rfl
  plain := ⟨rfl, rfl⟩
  unit_eq _ _ h := h
  unit_congr _ _ h := h
  rejects p frame packet h := afterTests_val.trans (if_neg h)
  accepts p frame packet h := by
    intro d
    have hd : d = (Udp31Parser.decodeBody env packet p frame (V31.readHeader env packet).val).val :=
      afterTests_val.trans (if_pos h)
    rw [hd]
    exact ⟨rfl, hd ▸ Udp31Parser.decodePacket_calibration, Udp31Parser.walked_decodeBody p⟩
  stamps _ _ _ := Udp31Parser.onlyStamp_decodePacket
  writes p frame packet P := by
    refine (allows_afterTests trivial trivial).trans (imp_congr_right fun _ => ?_)
    rw [allLog_bind, and_iff_right V31.allows_readHeader]
    exact Udp31Parser.allows_decodeBody

def udp32Walking : WalkingParser env (Udp32Parser.format env) Udp32Parser Pt Fault where
  toParser := udp32 env Pt Fault
  calibration p := p.toCalibration
  form := Udp32Parser.computeForm Pt
  computes _ := rfl
  plain := ⟨rfl, rfl⟩
  unit_eq _ _ h := h
  unit_congr _ _ h := h
  rejects p frame packet h := afterTests_val.trans (if_neg h)
  accepts p frame packet h := by
    have hpassed : ((udp32 env Pt Fault).decodePacket p frame packet).val =
      (Udp32Parser.decodeBody env packet p frame (V32.readHeader env packet).val).val :=
      Udp32Parser.decodePacket_passed h
    obtain ⟨hret, hcalibration⟩ := @Udp32Parser.decodeBody_keeps env packet Pt frame p (V32.readHeader env packet).val
    rw [hpassed]
    exact ⟨hret, hcalibration, Udp32Parser.walked_decodeBody p⟩
  stamps _ _ _ := Udp32Parser.onlyStamp_decodePacket
  writes p frame packet P := by
    refine (allows_afterTests trivial trivial).trans (imp_congr_right fun _ => ?_)
    rw [allLog_bind, and_iff_right V32.allows_readHeader]
    exact Udp32Parser.allows_decodeBody

def udpP64Walking : WalkingParser env (UdpP64Parser.format env) GeneralParser Pt Fault where
  toParser := udpP64 env Pt Fault
  calibration p := p.toCalibration
  form := UdpP64Parser.computeForm Pt
  computes _ := rfl
  plain := ⟨rfl, rfl⟩
  unit_eq _ _ h := h
  unit_congr _ _ h := h
  rejects p frame packet h := afterTests_val.trans (if_neg h)
  accepts p frame packet h := by
    intro d
    have hd : d = (UdpP64Parser.decodeBody env packet p frame (P64.readHeader env packet).val).val :=
      afterTests_val.trans (if_pos h)
    rw [hd]
    exact ⟨rfl, hd ▸ UdpP64Parser.decodePacket_calibration, UdpP64Parser.walked_decodeBody p⟩
  stamps _ _ _ := UdpP64Parser.onlyStamp_decodePacket
  writes p frame packet P := by
    refine (allows_afterTests trivial trivial).trans (imp_congr_right fun _ => ?_)
    rw [allLog_bind, and_iff_right P64.allows_readHeader]
    exact UdpP64Parser.allows_decodeBody

/-- `ComputeXYZI` has the distance unit of the format, whatever the frame says. -/
def udpP40Walking : WalkingParser env (UdpP40Parser.format env) GeneralParser Pt Fault where
  toParser := udpP40 env Pt Fault
  calibration p := p.toCalibration
  form := UdpP40Parser.computeForm Pt
  computes _ := rfl
  plain := ⟨rfl, rfl⟩
  unit_eq _ _ _ := rfl
  unit_congr _ _ _ := rfl
  rejects p frame packet h := UdpP40Parser.decodePacket_val.trans (if_neg h)
  accepts p frame packet h := by
    intro d
    have hd : d = (UdpP40Parser.decodeBody env packet p frame).val :=
      UdpP40Parser.decodePacket_val.trans (if_pos h)
    rw [hd]
    exact ⟨rfl, hd ▸ UdpP40Parser.decodePacket_calibration, UdpP40Parser.walked_decodeBody p⟩
  stamps _ _ _ := UdpP40Parser.onlyStamp_decodePacket
  writes p frame packet P :=
    UdpP40Parser.allows_decodePacket.trans (imp_congr_right fun _ => UdpP40Parser.allows_decodeBody)

end Instances

/-- The lidars whose packets are walked so. -/
inductive WalkedLidar where
  | qt64
  | qt128
  | pandar40
  | pandar64
deriving DecidableEq

namespace WalkedLidar

def State : WalkedLidar → Type
  | qt128 => Udp32Parser
  | _ => GeneralParser

def format (env : Environment) : WalkedLidar → WalkedFormat
  | qt64 => Udp31Parser.format env
  | qt128 => Udp32Parser.format env
  | pandar40 => UdpP40Parser.format env
  | pandar64 => UdpP64Parser.format env

end WalkedLidar

end HesaiSdk.Parsing
