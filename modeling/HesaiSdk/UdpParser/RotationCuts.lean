import HesaiSdk.UdpParser.Redecoding

/-! The frames that the mechanical parsers cut out of a rotation. -/

namespace HesaiSdk.Parsing

open Library Library.ByteLayout Library.Circle Library.FloatRounding Lidar UdpProtocol GeneralParser

def udp61Mechanical (env : Environment) (Pt Fault : Type) [Point Pt] : MechanicalParser GeneralParser Pt Fault :=
  (udp61Counting env Pt Fault).mechanical

def udpP40Mechanical (env : Environment) (Pt Fault : Type) [Point Pt] : MechanicalParser GeneralParser Pt Fault :=
  (udpP40Counting env Pt Fault).mechanical

namespace MechanicalParser

variable {σ Pt Fault : Type} (F : MechanicalParser σ Pt Fault)

def decodes : σ → List (LidarDecodedFrame Pt × UdpPacket) → List (Decoded σ Pt)
  | _, [] => []
  | p, (frame, packet) :: rest =>
    (F.decodePacket p frame packet).val :: decodes (F.decodePacket p frame packet).val.parser rest

def azimuths (calls : List (LidarDecodedFrame Pt × UdpPacket)) : List UInt16 :=
  calls.map fun call => F.azimuth call.2

def scanCompletes (p : σ) (calls : List (LidarDecodedFrame Pt × UdpPacket)) : List Bool :=
  (F.decodes p calls).map fun d => d.frame.scanComplete

variable {F} {p : σ} {calls rest : List (LidarDecodedFrame Pt × UdpPacket)}
  {first second : LidarDecodedFrame Pt × UdpPacket} {s : ℕ}

lemma decodes_ret {env : Environment} (F : CountingParser env σ Pt Fault) (hp : (F.general p).getCorrectionFile = true)
    (hcalls : ∀ call ∈ calls, F.accepts call.2) : ∀ d ∈ F.mechanical.decodes p calls, d.ret = 0 := by
  induction calls generalizing p with
  | nil => exact fun _ h => absurd h List.not_mem_nil
  | cons call rest ih =>
    obtain ⟨haccepts, hrest⟩ := List.forall_mem_cons.mp hcalls
    refine List.forall_mem_cons.mpr ⟨(F.ret p call.1 call.2).mpr ⟨hp, haccepts⟩, ih ?_ hrest⟩
    exact (congrArg Calibration.getCorrectionFile (F.keeps p call.1 call.2)).trans hp

lemma scanCompletes_eq (hret : ∀ d ∈ F.decodes p calls, d.ret = 0) :
    F.scanCompletes p calls = cuts F.isNeedFrameSplit (F.general p) (F.azimuths calls) := by
  induction calls generalizing p with
  | nil => rfl
  | cons call rest ih =>
    obtain ⟨hzero, hrest⟩ := List.forall_mem_cons.mp hret
    obtain ⟨hcut, hnext⟩ := F.turns p call.1 call.2 hzero
    have htail := (ih hrest).trans (cuts_congr F.copy hnext)
    rw [scanCompletes, decodes, List.map_cons, hcut, azimuths, List.map_cons, cuts]
    exact congrArg _ htail

lemma scanCompletes_drop (hs : s < 36000) (hstart : (F.general p).frameStartAzimuth = roundFloat (s / 100))
    (hret : ∀ d ∈ F.decodes p (first :: second :: rest), d.ret = 0)
    (hne : ((F.azimuth second.2).toNat : ℤ) ≠ (F.azimuth first.2).toNat) :
    ∃ q, At s (F.azimuth first.2).toNat (F.azimuth second.2).toNat q ∧
      q.startProduct = (F.general p).startProduct ∧
      (F.scanCompletes p (first :: second :: rest)).drop 2 = cuts F.isNeedFrameSplit q (F.azimuths rest) := by
  have hp : At s (F.general p).lastLastAzimuth (F.general p).lastAzimuth (F.general p) := ⟨hstart, rfl, rfl⟩
  have hq := hp.turnTo_turnTo F.copy hs hne
  refine ⟨_, hq, hp.startProduct_eq hq, ?_⟩
  rw [scanCompletes_eq hret]
  rfl

lemma positions_azimuths : positions (F.azimuths (first :: rest)) =
    ((F.azimuth first.2).toNat : ℤ) :: positions (F.azimuths rest) := rfl

/-- Forward rotation: from the third azimuth on a packet ends the frame exactly if the start azimuth is
on its way from the packet before, unless the product of the start azimuth in degrees is not whole and a step lands on
what it is cut off to, or leaves it. -/
theorem forward_cuts (F : MechanicalParser σ Pt Fault) (p : σ) (s : ℕ) (hs : s < 36000)
    (hstart : (F.general p).frameStartAzimuth = roundFloat (s / 100))
    (first second : LidarDecodedFrame Pt × UdpPacket) (rest : List (LidarDecodedFrame Pt × UdpPacket))
    (hret : ∀ d ∈ F.decodes p (first :: second :: rest), d.ret = 0)
    (hrange : ∀ z ∈ positions (F.azimuths (first :: second :: rest)), z < 36000)
    (hfirst : 0 < advance 36000 (F.azimuth first.2).toNat (F.azimuth second.2).toNat ∧
      advance 36000 (F.azimuth first.2).toNat (F.azimuth second.2).toNat < 18000)
    (hchain : List.IsChain (fun y z => advance 36000 y z < 18000) (positions (F.azimuths (second :: rest)))) :
    let y : ℤ := (F.azimuth second.2).toNat
    let way := positions (F.azimuths rest)
    let cuts := (F.scanCompletes p (first :: second :: rest)).drop 2
    let product := (F.general p).startProduct
    (cuts = passages 36000 s y way ↔
      List.IsChain (fun y z => ¬ForwardMisses product s y z) (positions (F.azimuths (second :: rest)))) ∧
    (List.IsChain (fun y z => ¬ForwardMisses product s y z) (positions (F.azimuths (second :: rest))) →
      (cuts.count true : ℤ) = Circle.turns 36000 s (y + travelled 36000 y way) - Circle.turns 36000 s y ∧
      ∀ k : ℤ, travelled 36000 y way = 36000 * k → (cuts.count true : ℤ) = k) := by
  intro y way cuts product
  obtain ⟨q, hq, hproduct, hdrop⟩ := scanCompletes_drop hs hstart hret (ne_of_advance hfirst.1)
  rw [positions_azimuths, List.forall_mem_cons, positions_azimuths, List.forall_mem_cons] at hrange
  have hcuts : cuts = passages 36000 s y way ↔
      List.IsChain (fun y z => ¬ForwardMisses product s y z) (positions (F.azimuths (second :: rest))) := by
    have hforward := hq.forward_splits F.copy hs ⟨Int.natCast_nonneg _, hrange.1⟩
      ⟨Int.natCast_nonneg _, hrange.2.1⟩ hfirst hrange.2.2 hchain
    rw [← hdrop, hproduct] at hforward
    exact hforward
  refine ⟨hcuts, fun hlands => ⟨?_, fun k hk => ?_⟩⟩
  · rw [hcuts.mpr hlands]
    exact count_passages (by decide) rfl
  · rw [hcuts.mpr hlands]
    exact count_passages_of_turns (by decide) hk

def oneBlock (azimuth : UInt16) : LidarDecodedFrame LidarPointXYZICRT × UdpPacket :=
  (default, UdpPacket.ofBytes ([0xEE, 0xFF, 6, 1, 0, 0, 1, 1, 0, 4, 0, 0] ++ leBytes 2 azimuth.toNat))

def calibrated : GeneralParser := { (default : GeneralParser) with getCorrectionFile := true }

lemma oneBlock_ret (azimuths : List UInt16) (p : GeneralParser) (hp : p.getCorrectionFile = true) :
    ∀ d ∈ (udp61Mechanical default LidarPointXYZICRT Unit).decodes p (azimuths.map oneBlock), d.ret = 0 := by
  refine decodes_ret (udp61Counting default LidarPointXYZICRT Unit) hp fun call hcall => ?_
  obtain ⟨azimuth, -, rfl⟩ := List.mem_map.mp hcall
  exact ⟨rfl, rfl⟩

/-- The product for 0.15 degrees is above 15, and no step over the end of the circle lands there. -/
theorem forward_cuts_udp61 : ((udp61Mechanical default LidarPointXYZICRT Unit).scanCompletes
    { calibrated with frameStartAzimuth := roundFloat (15 / 100) }
    ([35800, 35900, 14, 15, 114, 16000, 32000, 100].map oneBlock)).drop 2 = [false, true, false, false, false, true] :=
  ((forward_cuts (udp61Mechanical default LidarPointXYZICRT Unit)
    { calibrated with frameStartAzimuth := roundFloat (15 / 100) } 15 (by decide) rfl
    (oneBlock 35800) (oneBlock 35900) ([14, 15, 114, 16000, 32000, 100].map oneBlock)
    (oneBlock_ret [35800, 35900, 14, 15, 114, 16000, 32000, 100] _ rfl) (by decide +kernel)
    (by decide +kernel) (by decide +kernel)).1.mpr (by decide +kernel)).trans (by decide +kernel)

/-- The product for 0.53 degrees is below 53 and cut off to 52: a full turn that lands on it over the end of the circle
is not cut. -/
theorem forward_cuts_missed : (udp61Mechanical default LidarPointXYZICRT Unit).scanCompletes
      { calibrated with frameStartAzimuth := roundFloat (53 / 100) }
      ([35800, 35900, 52, 16000, 32000, 35900].map oneBlock) = [false, false, false, false, false, false] ∧
    passages 36000 53 35900 [52, 16000, 32000, 35900] = [false, true, false, false] ∧
    travelled 36000 35900 [52, 16000, 32000, 35900] = 36000 := by
  refine ⟨?_, by decide +kernel, by decide +kernel⟩
  rw [scanCompletes_eq (oneBlock_ret _ _ rfl)]
  decide +kernel

/-- Reverse rotation: likewise, exactly if no step is one that the reverse branch misses. -/
theorem backward_cuts (F : MechanicalParser σ Pt Fault) (p : σ) (s : ℕ) (hs : s < 36000)
    (hstart : (F.general p).frameStartAzimuth = roundFloat (s / 100))
    (first second : LidarDecodedFrame Pt × UdpPacket) (rest : List (LidarDecodedFrame Pt × UdpPacket))
    (hret : ∀ d ∈ F.decodes p (first :: second :: rest), d.ret = 0)
    (hrange : ∀ z ∈ positions (F.azimuths (first :: second :: rest)), z < 36000)
    (hchain : List.IsChain (fun y z => 0 < advance 36000 z y ∧ advance 36000 z y < 18000)
      (positions (F.azimuths (first :: second :: rest)))) :
    let y : ℤ := (F.azimuth second.2).toNat
    let way := (positions (F.azimuths rest)).map (- ·)
    let cuts := (F.scanCompletes p (first :: second :: rest)).drop 2
    let misses := BackwardMisses (F.isNeedFrameSplit = isNeedFrameSplitUncast) (F.general p).startProduct s
    (cuts = passages 36000 (-s) (-y) way ↔
      List.IsChain (fun y z => ¬misses y z) (positions (F.azimuths (second :: rest)))) ∧
    (List.IsChain (fun y z => ¬misses y z) (positions (F.azimuths (second :: rest))) →
      (cuts.count true : ℤ) = Circle.turns 36000 (-s) (-y + travelled 36000 (-y) way) - Circle.turns 36000 (-s) (-y) ∧
      ∀ k : ℤ, travelled 36000 (-y) way = 36000 * k → (cuts.count true : ℤ) = k) := by
  intro y way cuts misses
  rw [positions_azimuths, positions_azimuths, List.isChain_cons_cons] at hchain
  rw [positions_azimuths, List.forall_mem_cons, positions_azimuths, List.forall_mem_cons] at hrange
  obtain ⟨q, hq, hproduct, hdrop⟩ := scanCompletes_drop hs hstart hret (ne_of_advance hchain.1.1).symm
  have hcuts : cuts = passages 36000 (-s) (-y) way ↔
      List.IsChain (fun y z => ¬misses y z) (positions (F.azimuths (second :: rest))) := by
    have hback := hq.backward_splits F.copy hs ⟨Int.natCast_nonneg _, hrange.1⟩ ⟨Int.natCast_nonneg _, hrange.2.1⟩
      hchain.1 hrange.2.2 hchain.2
    rw [← hdrop, hproduct] at hback
    exact hback
  refine ⟨hcuts, fun hwrap => ⟨?_, fun k hk => ?_⟩⟩
  · rw [hcuts.mpr hwrap]
    exact count_passages (by decide) rfl
  · rw [hcuts.mpr hwrap]
    exact count_passages_of_turns (by decide) hk

/-- A packet of the Pandar40 with this azimuth in its last block. -/
def lastBlock (azimuth : UInt16) : LidarDecodedFrame LidarPointXYZICRT × UdpPacket :=
  (default, { (default : UdpPacket) with
    buffer := fun i => match i.val with
      | 0 => 0xFF
      | 1 => 0xEE
      | 1118 => azimuth.toUInt8
      | 1119 => (azimuth >>> 8).toUInt8
      | _ => 0
    packetLen := 1262 })

lemma lastBlock_ret (azimuths : List UInt16) (p : GeneralParser) (hp : p.getCorrectionFile = true) :
    ∀ d ∈ (udpP40Mechanical default LidarPointXYZICRT Unit).decodes p (azimuths.map lastBlock), d.ret = 0 := by
  refine decodes_ret (udpP40Counting default LidarPointXYZICRT Unit) hp fun call hcall => ?_
  obtain ⟨azimuth, -, rfl⟩ := List.mem_map.mp hcall
  exact ⟨rfl, rfl⟩

/-- A full turn backward and more, which lands on the start azimuth of 5 degrees and passes it once more. -/
theorem backward_cuts_udpP40 : ((udpP40Mechanical default LidarPointXYZICRT Unit).scanCompletes
    { calibrated with frameStartAzimuth := roundFloat (500 / 100) }
    ([700, 600, 500, 300, 35900, 20000, 4000, 400].map lastBlock)).drop 2 =
      [true, false, false, false, false, true] := by
  have hproduct : ({ calibrated with frameStartAzimuth := roundFloat (500 / 100) } : GeneralParser).startProduct =
      500 := by decide +kernel
  have hmisses (uncast : Prop) : List.IsChain (fun y z => ¬BackwardMisses uncast 500 500 y z)
      [600, 500, 300, 35900, 20000, 4000, 400] := by simp [BackwardMisses]
  rw [← hproduct] at hmisses
  exact ((backward_cuts (udpP40Mechanical default LidarPointXYZICRT Unit)
    { calibrated with frameStartAzimuth := roundFloat (500 / 100) } 500 (by decide) rfl
    (lastBlock 700) (lastBlock 600) ([500, 300, 35900, 20000, 4000, 400].map lastBlock)
    (lastBlock_ret [700, 600, 500, 300, 35900, 20000, 4000, 400] _ rfl) (by decide +kernel)
    (by decide +kernel)).1.mpr (hmisses _)).trans (by decide +kernel)

/-- Landing on the start azimuth 0 before the end of the circle: cut twice on a way of 3 degrees. -/
theorem backward_cuts_twice : (udp61Mechanical default LidarPointXYZICRT Unit).scanCompletes calibrated
    ([200, 100, 0, 35900].map oneBlock) = [false, false, true, true] ∧
    travelled 36000 (-200) [-100, 0, -35900] = 300 := by
  refine ⟨?_, by decide +kernel⟩
  rw [scanCompletes_eq (oneBlock_ret _ _ rfl)]
  decide +kernel

/-- A new parser: the second packet ends a frame exactly if the first is not at azimuth 0 and the start
azimuth is between the two. -/
theorem first_cuts (F : MechanicalParser σ Pt Fault) (p : σ)
    (hlastLast : (F.general p).lastLastAzimuth = (default : GeneralParser).lastLastAzimuth)
    (hlast : (F.general p).lastAzimuth = (default : GeneralParser).lastAzimuth)
    (first second : LidarDecodedFrame Pt × UdpPacket) (hret : ∀ d ∈ F.decodes p [first, second], d.ret = 0) :
    let a := (F.azimuth first.2).toNat
    let b := (F.azimuth second.2).toNat
    let start := (F.general p).normalizeFrameStart.startAzimuth
    F.scanCompletes p [first, second] = [false, false] ↔
      ¬(a ≠ 0 ∧ (a < start ∧ start ≤ b ∨ b ≤ start ∧ start < a)) := by
  intro a b start
  rw [scanCompletes_eq hret]
  exact cuts_new F.copy hlastLast hlast _ _

theorem first_cuts_udp61 : (udp61Mechanical default LidarPointXYZICRT Unit).scanCompletes calibrated
    ([50, 150].map oneBlock) = [false, false] :=
  (first_cuts (udp61Mechanical default LidarPointXYZICRT Unit) calibrated rfl rfl (oneBlock 50) (oneBlock 150)
    (oneBlock_ret [50, 150] _ rfl)).mpr (by decide +kernel)

/-- A start azimuth of one degree, which the second packet passes. -/
theorem first_cuts_second : (udp61Mechanical default LidarPointXYZICRT Unit).scanCompletes
    { calibrated with frameStartAzimuth := 1 } ([50, 150].map oneBlock) = [false, true] := by
  rw [scanCompletes_eq (oneBlock_ret _ _ rfl)]
  decide +kernel

end MechanicalParser

end HesaiSdk.Parsing
