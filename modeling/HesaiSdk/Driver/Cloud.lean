import HesaiSdk.Driver.Scheduling
import HesaiSdk.UdpParser.Cloud

/-! The points of a published frame, from the packets that it was made of. -/

namespace HesaiSdk.Driver

open Library Library.BlockWalk Library.Transition Lidar UdpProtocol Parsing

variable {σ Pt Fault : Type} {n : ℕ} {env : Environment} {F : CloudParser σ Pt Fault} {device : DeviceFilter}
  {shape : Shape} {packets packets' : List UdpPacket} {packet : UdpPacket} {setup : CloudSetup} {m : ℕ}
  {points : ℕ → Pt} {main main' : RunState σ Pt Fault} {sourceType : ℤ}

/-- Of packets of one shape, the first `m` have their points in `points`. -/
def Shows (F : CloudParser σ Pt Fault) (setup : CloudSetup) (shape : Shape) (packets : List UdpPacket) (m : ℕ)
    (points : ℕ → Pt) : Prop :=
  ∀ k < m, ∀ packet ∈ packets[k]?, ∀ j < shape.pointNum, F.Image setup packet j (points (k * shape.pointNum + j))

lemma Shows.shorten (h : Shows F setup shape packets m points) (hm : m ≤ packets.length)
    (hp : packets <+: packets') : Shows F setup shape packets' m points := by
  intro k hk packet hpacket
  obtain ⟨rest, rfl⟩ := hp
  rw [List.getElem?_append_left (by omega)] at hpacket
  exact h k hk packet hpacket

structure SetUp (F : CloudParser σ Pt Fault) (setup : CloudSetup) (main : RunState σ Pt Fault) : Prop where
  calibration : main.udpParser.calibration F.toPointParser = some setup.calibration
  config : main.frame.config = setup.config
  useTimestampType : main.frame.useTimestampType = setup.useTimestampType

/-- Computed now, the last packet would have its points, whatever the others have. -/
def Laid (F : CloudParser σ Pt Fault) (setup : CloudSetup) (main : RunState σ Pt Fault) (packet : UdpPacket) : Prop :=
  ∀ points, ∀ j < (F.shape packet).pointNum, F.Image setup packet j
    ((main.udpParser.computeXYZI F.toParser { main.frame with points := points } main.packetIndex).val
      (main.packetIndex * (F.shape packet).pointNum + j))

section Decode

variable (env packet) in
lemma SetUp.decode (h : SetUp F setup main) : SetUp F setup (main.decode env F.toParser packet).val.2 := by
  have hparser : main.udpParser.parser.isSome := by
    have hcal := h.calibration
    rw [UdpParser.calibration] at hcal
    exact Option.isSome_map.symm.trans (Option.isSome_of_eq_some hcal)
  have hframe : (main.udpParser.decodePacket env F.toParser main.frame packet).val.frame.config = main.frame.config ∧
      (main.udpParser.decodePacket env F.toParser main.frame packet).val.frame.useTimestampType =
        main.frame.useTimestampType := by
    rcases UdpParser.decodePacket_frame_cases env F.toParser main.frame packet hparser with hf | ⟨p, hf⟩
    · rw [hf]
      exact ⟨rfl, rfl⟩
    · rw [hf]
      exact F.keepsSetup p main.frame packet
  rw [RunState.decode_val]
  exact ⟨(UdpParser.decodePacket_calibration hparser).trans h.calibration, hframe.1.trans h.config,
    hframe.2.trans h.useTimestampType⟩

/-- Neither the packets nor the points are in the setup. -/
lemma SetUp.congr (h : SetUp F setup main) (hparser : main'.udpParser = main.udpParser)
    (hconfig : main'.frame.config = main.frame.config)
    (huse : main'.frame.useTimestampType = main.frame.useTimestampType) : SetUp F setup main' :=
  ⟨hparser ▸ h.calibration, hconfig.trans h.config, huse.trans h.useTimestampType⟩

lemma SetUp.laid (h : SetUp F setup main) (hnum : main.frame.packetNum = main.packetIndex)
    (hn : (main.decode env F.toParser packet).val.2.frame.packetNum = main.frame.packetNum + 1) :
    Laid F setup (main.decode env F.toParser packet).val.2 packet := by
  obtain ⟨hcal, hconfig, huse⟩ := h
  obtain ⟨p, hp, hcalibration⟩ := Option.map_eq_some_iff.mp hcal
  rw [RunState.decode_val] at hn ⊢
  by_cases hlen : packet.packetLen < 6
  · rw [UdpParser.decodePacket_val_of_short hlen] at hn
    exact absurd hn.symm (Nat.succ_ne_self _)
  · obtain ⟨-, hframe, hparser, -⟩ := UdpParser.decodePacket_val_of_some env F.toParser main.frame hp hlen
    intro points j hj
    have hdraws := F.draws p main.frame packet (by rw [← hframe]; exact hn) points j hj
    rw [hcalibration, hconfig, huse] at hdraws
    simp only [UdpParser.computeXYZI, hparser, hframe]
    rwa [hnum] at hdraws

end Decode

lemma Laid.shows (h : Laid F setup main packet) (hshape : Shaped F.shape shape main.frame) (hpacket : F.shape packet = shape)
    (hlength : packets.length = main.packetIndex)
    (hshows : Shows F setup shape (packets ++ [packet]) main.packetIndex points) :
    Shows F setup shape (packets ++ [packet]) (main.packetIndex + 1)
      (main.udpParser.computeXYZI F.toParser { main.frame with points := points } main.packetIndex).val := by
  intro k hk packet' hpacket' j hj
  have hshape' : Shaped F.shape shape { main.frame with points := points } := hshape.transfer rfl rfl rfl rfl
  rcases Nat.lt_succ_iff_lt_or_eq.mp hk with hlt | rfl
  · have hne : ¬shape.Slot main.packetIndex (k * shape.pointNum + j) := fun hslot =>
      absurd (Shape.slot_unique ⟨by omega, by omega⟩ hslot) hlt.ne
    rw [UdpParser.computeXYZI_of_not_slot hshape' hne]
    exact hshows k hlt packet' hpacket' j hj
  · rw [← hlength, List.getElem?_concat_length] at hpacket'
    obtain rfl := Option.some.inj hpacket'
    obtain rfl := hpacket
    exact h points j hj

namespace Pipeline

variable {s t : Pipeline σ Pt Fault n}

/-- The published points are those of the packets. -/
def Pictured (F : CloudParser σ Pt Fault) (setup : CloudSetup) (p : Published Pt) : Prop :=
  ∀ shape, (∀ packet ∈ p.packets ++ p.again.toList, F.shape packet = shape) →
    p.frame.pointsNum = p.packets.length * shape.pointNum ∧
      Shows F setup shape p.packets p.packets.length p.frame.points

structure Drawn (env : Environment) (F : CloudParser σ Pt Fault) (setup : CloudSetup) (sourceType : ℤ)
    (s : Pipeline σ Pt Fault n) : Prop extends Scheduled env F.toPointParser setup.calibration sourceType s where
  setUp : SetUp F setup s.main
  laid : ∀ packet first, s.pc = .push packet first → Laid F setup s.main packet
  shows : ∀ shape, (∀ packet ∈ s.framePackets, F.shape packet = shape) →
    Shows F setup shape s.framePackets s.pushed s.sequential
  pictured : ∀ p ∈ s.published, Pictured F setup p

lemma Drawn.transfer (h : s.Drawn env F setup sourceType) (ht : t.Scheduled env F.toPointParser setup.calibration sourceType)
    (hset : SetUp F setup t.main) (hlaid : ∀ packet first, t.pc = .push packet first → Laid F setup t.main packet)
    (hpackets : s.framePackets <+: t.framePackets) (hpushed : t.pushed = s.pushed)
    (hsequential : t.sequential = s.sequential) (hpublished : t.published = s.published) :
    t.Drawn env F setup sourceType := by
  refine ⟨ht, hset, hlaid, fun shape hshape => ?_, hpublished ▸ h.pictured⟩
  rw [hpushed, hsequential]
  exact (h.shows shape fun packet hmem => hshape packet (hpackets.subset hmem)).shorten h.pushed_le hpackets

section Main

variable {fetch : Fetch}

end Main

section Runs

/-- No step here is the reset of a frame with too many packets. -/
def unreset (s : Pipeline σ Pt Fault n) (_ : Action n) : Bool :=
  match s.pc with
  | .update => false
  | _ => true

end Runs

section Results

variable [Point Pt]

def xtParser : GeneralParser :=
  { (default : GeneralParser) with
    getCorrectionFile := true
    frameStartAzimuth := 1
    lastAzimuth := 0 }

end Results

end Pipeline

end HesaiSdk.Driver
