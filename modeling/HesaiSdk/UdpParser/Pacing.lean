import HesaiSdk.UdpParser.Framing
import HesaiSdk.UdpParser.Udp31Parser

/-! The pacing of a playback: the sleeps that `UdpParser` asks for, against the clock of the sensor. -/

namespace HesaiSdk.Parsing

open Library Lidar UdpProtocol

def sleepOf : DecodeEvent → Option ℤ
  | .sleep micros => some micros
  | _ => none

def requested (events : List DecodeEvent) : ℤ := (events.filterMap sleepOf).sum

lemma requested_append (xs ys : List DecodeEvent) : requested (xs ++ ys) = requested xs + requested ys := by
  rw [requested, List.filterMap_append, List.sum_append]
  rfl

structure Stamps where
  sensor : UInt64
  host : UInt64

/-- How much more has elapsed by the sensor's stamp than by the host's. -/
def Stamps.ahead (s r : Stamps) : ℤ :=
  ((s.sensor.toNat : ℤ) - r.sensor.toNat) - ((s.host.toNat : ℤ) - r.host.toNat)

lemma toInt_resetTime (s r : Stamps) :
    ((s.sensor - r.sensor) - (s.host - r.host)).toUInt32.toInt32.toInt = (s.ahead r).bmod (2 ^ 32) := by
  have hint (x : UInt64) : x.toUInt32.toInt32.toInt = (x.toNat : ℤ).bmod (2 ^ 32) := by
    rw [Int32.toInt, UInt32.toBitVec_toInt32, BitVec.toInt_eq_toNat_bmod]
    change ((x.toUInt32.toNat : ℕ) : ℤ).bmod (2 ^ 32) = _
    rw [UInt64.toNat_toUInt32]
    push_cast
    exact Int.emod_bmod x.toNat 4294967296
  have hs := s.sensor.toNat_lt
  have hr := r.sensor.toNat_lt
  have hsh := s.host.toNat_lt
  have hrh := r.host.toNat_lt
  rw [hint, Stamps.ahead, UInt64.toNat_sub, UInt64.toNat_sub, UInt64.toNat_sub, Int.bmod_def, Int.bmod_def]
  norm_num
  omega

/-- The differences that the narrowing to `int` leaves alone, or makes no sleep of. -/
def Exact (d : ℤ) : Prop := (0 ≤ d → d < 2 ^ 31) ∧ (d < 0 → d % 2 ^ 32 = 0 ∨ 2 ^ 31 ≤ d % 2 ^ 32)

lemma max_bmod_iff (d : ℤ) : max 0 (d.bmod (2 ^ 32)) = max 0 d ↔ Exact d := by
  rw [Exact, Int.bmod_def]
  norm_num
  omega

section Frame

variable {Pt : Type}

def stamps (frame : LidarDecodedFrame Pt) : Stamps :=
  ⟨frame.sensorTimestamp ((frame.packetNum + (2 ^ 32 - 1)) % 2 ^ 32), frame.hostTimestamp⟩

end Frame

namespace UdpParser

variable {σ Pt Fault : Type} {u : UdpParser σ} {frame : LidarDecodedFrame Pt}

def standsAt (r : Stamps) (count : UInt8) (u : UdpParser σ) : UdpParser σ :=
  { u with lastHostTimestamp := r.host, lastSensorTimestamp := r.sensor, packetCount := count, fisrtPacket := false }

@[simp] lemma standsAt_fisrtPacket {r : Stamps} {count : UInt8} : (u.standsAt r count).fisrtPacket = false := rfl

@[simp] lemma standsAt_packetCount {r : Stamps} {count : UInt8} : (u.standsAt r count).packetCount = count := rfl

lemma synchronize_first (u : UdpParser σ) (frame : LidarDecodedFrame Pt) (h : u.fisrtPacket = true) :
    (u.synchronize frame).val = u.standsAt (stamps frame) 1 ∧ requested (u.synchronize frame).log = 0 := by
  rw [synchronize, if_pos h]
  exact ⟨rfl, rfl⟩

lemma synchronize_between (u : UdpParser σ) (frame : LidarDecodedFrame Pt) (r : Stamps) (count : UInt8)
    (h : count.toNat + 1 < 100) :
    ((u.standsAt r count).synchronize frame).val = u.standsAt r (count + 1) ∧
      requested ((u.standsAt r count).synchronize frame).log = 0 := by
  have hcount : ¬kPcapPlaySynchronizationCount ≤ count + 1 := by
    rw [UInt8.le_iff_toNat_le, UInt8.toNat_add, kPcapPlaySynchronizationCount]
    simp only [UInt8.reduceToNat]
    omega
  rw [synchronize, standsAt_fisrtPacket, standsAt_packetCount, if_neg Bool.false_ne_true, if_neg hcount]
  exact ⟨rfl, rfl⟩

lemma synchronize_point (u : UdpParser σ) (frame : LidarDecodedFrame Pt) (r : Stamps) (count : UInt8)
    (h : count.toNat + 1 = 100) :
    ((u.standsAt r count).synchronize frame).val = u.standsAt (stamps frame) 0 ∧
      requested ((u.standsAt r count).synchronize frame).log =
        max 0 (((stamps frame).ahead r).bmod (2 ^ 32)) := by
  have hcount : kPcapPlaySynchronizationCount ≤ count + 1 := by
    rw [UInt8.le_iff_toNat_le, UInt8.toNat_add, kPcapPlaySynchronizationCount]
    simp only [UInt8.reduceToNat]
    omega
  have hreset : (frame.sensorTimestamp ((frame.packetNum + (2 ^ 32 - 1)) % 2 ^ 32) -
      (u.standsAt r count).lastSensorTimestamp -
      (frame.hostTimestamp - (u.standsAt r count).lastHostTimestamp)).toUInt32.toInt32.toInt =
      ((stamps frame).ahead r).bmod (2 ^ 32) := toInt_resetTime (stamps frame) r
  rw [synchronize, standsAt_fisrtPacket, standsAt_packetCount, if_neg Bool.false_ne_true, if_pos hcount]
  simp only [hreset]
  by_cases hpos : 0 < ((stamps frame).ahead r).bmod (2 ^ 32)
  · rw [max_eq_right hpos.le, if_pos hpos]
    exact ⟨rfl, add_zero _⟩
  · rw [max_eq_left (not_lt.mp hpos), if_neg hpos]
    exact ⟨rfl, rfl⟩

structure Plays (u : UdpParser σ) : Prop where
  parser : u.parser.isSome
  source : u.sourceType = 2
  synchronized : u.pcapTimeSynchronization = true

variable (env : Environment) (P : Parser σ Pt Fault)

/-- What a call asks for itself, without what the parser class notes. -/
def slept (u : UdpParser σ) (frame : LidarDecodedFrame Pt) (packet : UdpPacket) : ℤ :=
  requested (u.decodePacket env P frame packet).log -
    match u.parser with
    | none => 0
    | some p => requested (P.decodePacket p frame packet).log

lemma decodePacket_plays {packet : UdpPacket} (hu : u.Plays)
    (hret : (u.decodePacket env P frame packet).val.ret = 0) : ∃ p : σ, ∃ g : LidarDecodedFrame Pt,
    (u.decodePacket env P frame packet).val.frame = g ∧
    (u.decodePacket env P frame packet).val.parser = (({ u with parser := some p }).synchronize g).val ∧
    slept env P u frame packet = requested (({ u with parser := some p }).synchronize g).log := by
  obtain ⟨q, hq⟩ := Option.isSome_iff_exists.mp hu.parser
  by_cases hshort : packet.packetLen < 6
  · rw [decodePacket_val_of_short hshort] at hret
    exact absurd hret (by norm_num)
  · obtain ⟨hd, hframe, -⟩ := decodePacket_val_of_some env P frame hq hshort
    rw [hret] at hd
    refine ⟨(P.decodePacket q frame packet).val.parser, _, hframe, ?_, ?_⟩
    · rw [decodePacket, if_neg hshort]
      simp only [hq, val_bind, val_pure]
      rw [if_pos ⟨hu.source, hu.synchronized, hd.symm⟩]
    · rw [slept, decodePacket, if_neg hshort]
      simp only [hq, log_bind, log_pure, List.append_nil]
      rw [if_pos ⟨hu.source, hu.synchronized, hd.symm⟩, requested_append, add_sub_cancel_left]

section Run

variable (u : UdpParser σ) (calls : ℕ → LidarDecodedFrame Pt × UdpPacket)

def played : ℕ → UdpParser σ
  | 0 => u
  | k + 1 => ((played k).decodePacket env P (calls k).1 (calls k).2).val.parser

def Succeeds (k : ℕ) : Prop := ((played env P u calls k).decodePacket env P (calls k).1 (calls k).2).val.ret = 0

def stampsAt (k : ℕ) : Stamps :=
  stamps ((played env P u calls k).decodePacket env P (calls k).1 (calls k).2).val.frame

def sleptAt (k : ℕ) : ℤ := slept env P (played env P u calls k) (calls k).1 (calls k).2

def SynchronisationPoint (k : ℕ) : Prop := (k + 1) % 100 = 0

instance (k : ℕ) : Decidable (SynchronisationPoint k) := inferInstanceAs (Decidable (_ = _))

/-- The first call, later the last synchronisation point before `k`. -/
def reference (k : ℕ) : ℕ := k / 100 * 100 - 1

def elapsed (k : ℕ) : ℤ := (stampsAt env P u calls k).ahead (stampsAt env P u calls (reference k))

def Standing (k : ℕ) : Prop := ∃ v : UdpParser σ, v.Plays ∧
  played env P u calls k = v.standsAt (stampsAt env P u calls (reference k)) (UInt8.ofNat (k % 100))

variable {u calls}

lemma standing_one (hu : u.Plays) (hfirst : u.fisrtPacket = true) (h : Succeeds env P u calls 0) :
    Standing env P u calls 1 ∧ sleptAt env P u calls 0 = 0 := by
  obtain ⟨p, g, hframe, hparser, hslept⟩ := decodePacket_plays env P hu h
  obtain ⟨hval, hlog⟩ := synchronize_first { u with parser := some p } g hfirst
  constructor
  · refine ⟨{ u with parser := some p }, ⟨rfl, hu.source, hu.synchronized⟩, ?_⟩
    rw [played, stampsAt]
    exact hframe ▸ hparser.trans hval
  · exact hslept.trans hlog

lemma standing_succ {k : ℕ} (hs : Standing env P u calls k)
    (h : Succeeds env P u calls k) :
    Standing env P u calls (k + 1) ∧
      sleptAt env P u calls k =
        if SynchronisationPoint k then max 0 ((elapsed env P u calls k).bmod (2 ^ 32)) else 0 := by
  obtain ⟨v, hv, hplayed⟩ := hs
  have hu : (played env P u calls k).Plays := by
    rw [hplayed]
    exact ⟨hv.parser, hv.source, hv.synchronized⟩
  obtain ⟨p, g, hframe, hparser, hslept⟩ := decodePacket_plays env P hu h
  have hstamps : stampsAt env P u calls k = stamps g := congrArg stamps hframe
  have hcount : (UInt8.ofNat (k % 100)).toNat = k % 100 := by
    rw [UInt8.toNat_ofNat']
    omega
  have hobject : { played env P u calls k with parser := some p } =
      ({ v with parser := some p } : UdpParser σ).standsAt (stampsAt env P u calls (reference k))
        (UInt8.ofNat (k % 100)) := by
    rw [hplayed]
    rfl
  rw [hobject] at hparser hslept
  split_ifs with hpoint <;> rw [SynchronisationPoint] at hpoint
  · obtain ⟨hval, hlog⟩ := synchronize_point { v with parser := some p } g
      (stampsAt env P u calls (reference k)) (UInt8.ofNat (k % 100)) (by omega)
    constructor
    · refine ⟨{ v with parser := some p }, ⟨rfl, hv.source, hv.synchronized⟩, ?_⟩
      have href : reference (k + 1) = k := by
        rw [reference]
        omega
      rw [href, hpoint, hstamps]
      exact hparser.trans hval
    · rw [elapsed, hstamps]
      exact hslept.trans hlog
  · obtain ⟨hval, hlog⟩ := synchronize_between { v with parser := some p } g
      (stampsAt env P u calls (reference k)) (UInt8.ofNat (k % 100)) (by omega)
    constructor
    · refine ⟨{ v with parser := some p }, ⟨rfl, hv.source, hv.synchronized⟩, ?_⟩
      have href : reference (k + 1) = reference k := by
        rw [reference, reference]
        omega
      have hnext : UInt8.ofNat ((k + 1) % 100) = UInt8.ofNat (k % 100) + 1 := by
        rw [← UInt8.toNat_inj, UInt8.toNat_add, hcount, UInt8.toNat_ofNat']
        simp only [UInt8.reduceToNat]
        omega
      rw [href, hnext]
      exact hparser.trans hval
    · exact hslept.trans hlog

lemma standing_of_succeeds {k : ℕ} (hu : u.Plays) (hfirst : u.fisrtPacket = true)
    (h : ∀ j ≤ k, Succeeds env P u calls j) : Standing env P u calls (k + 1) := by
  induction k with
  | zero => exact (standing_one env P hu hfirst (h 0 (Nat.le_refl 0))).1
  | succ k ih =>
    have hs := ih fun j hj => h j (Nat.le_succ_of_le hj)
    exact (standing_succ env P hs (h (k + 1) (Nat.le_refl _))).1

lemma sleptAt_eq {k : ℕ} (hu : u.Plays) (hfirst : u.fisrtPacket = true)
    (h : ∀ j ≤ k, Succeeds env P u calls j) : sleptAt env P u calls k =
      if SynchronisationPoint k then max 0 ((elapsed env P u calls k).bmod (2 ^ 32)) else 0 := by
  cases k with
  | zero => exact (standing_one env P hu hfirst (h 0 (Nat.le_refl 0))).2
  | succ k =>
    have hs := standing_of_succeeds env P hu hfirst fun j hj => h j (Nat.le_succ_of_le hj)
    exact (standing_succ env P hs (h (k + 1) (Nat.le_refl _))).2

/-- Every sleep is the exact one, and there is none elsewhere, exactly if the narrowing does no harm at any
synchronisation point. -/
theorem sleptAt_exact_iff (env : Environment) (P : Parser σ Pt Fault) (u : UdpParser σ) (hu : u.Plays)
    (hfirst : u.fisrtPacket = true) (calls : ℕ → LidarDecodedFrame Pt × UdpPacket) (n : ℕ)
    (h : ∀ k < n, Succeeds env P u calls k) :
    (∀ k < n, sleptAt env P u calls k =
      if SynchronisationPoint k then max 0 (elapsed env P u calls k) else 0) ↔
    ∀ k < n, SynchronisationPoint k → Exact (elapsed env P u calls k) := by
  refine forall₂_congr fun k hk => ?_
  rw [sleptAt_eq env P hu hfirst fun j hj => h j (hj.trans_lt hk)]
  by_cases hpoint : SynchronisationPoint k
  · rw [if_pos hpoint, if_pos hpoint, max_bmod_iff]
    exact ⟨fun h _ => h, fun h => h hpoint⟩
  · rw [if_neg hpoint, if_neg hpoint]
    exact iff_of_true rfl fun h => absurd h hpoint

end Run

section Clocks

/-- Packets of the sensor with the time of each, the host's clock standing still. -/
def ticking (clock : ℕ → UInt64) (k : ℕ) : LidarDecodedFrame LidarPointXYZICRT × UdpPacket :=
  ({ (default : LidarDecodedFrame LidarPointXYZICRT) with useTimestampType := 1 },
    { UdpPacket.ofBytes [0xEE, 0xFF, 3, 1, 0, 0] with recvTimestamp := clock k })

def playing : UdpParser GeneralParser :=
  ⟨some { (default : GeneralParser) with getCorrectionFile := true }, true, 0, 0, 0, true, 2⟩

variable (clock : ℕ → UInt64)

lemma udp31_ticking {p : GeneralParser} (hp : p.getCorrectionFile = true) (k : ℕ) :
    ((udp31 default LidarPointXYZICRT Unit).decodePacket p (ticking clock k).1 (ticking clock k).2).val.ret = 0 ∧
    ((udp31 default LidarPointXYZICRT Unit).decodePacket p (ticking clock k).1
      (ticking clock k).2).val.parser.getCorrectionFile = true ∧
    stamps ((udp31 default LidarPointXYZICRT Unit).decodePacket p (ticking clock k).1
      (ticking clock k).2).val.frame = ⟨clock k, 0⟩ := by
  have hbody : ((udp31 default LidarPointXYZICRT Unit).decodePacket p (ticking clock k).1 (ticking clock k).2).val =
      (Udp31Parser.decodeBody default (ticking clock k).2 p (ticking clock k).1
        (V31.readHeader default (ticking clock k).2).val).val := by
    refine (afterTests_val).trans ?_
    rw [if_pos ⟨hp, rfl, rfl⟩, val_bind]
  have hcal : ((udp31 default LidarPointXYZICRT Unit).decodePacket p (ticking clock k).1
      (ticking clock k).2).val.parser.toCalibration = p.toCalibration := Udp31Parser.decodePacket_calibration
  refine ⟨by rw [hbody]; rfl, by rw [hcal, hp], ?_⟩
  rw [hbody]
  simp only [Udp31Parser.decodeBody, val_bind, val_pure, storeSensorTimestamp_val]
  have hnum : (ticking clock k).1.packetNum = 0 := rfl
  have hindex : (0 + 1 + (2 ^ 32 - 1)) % 2 ^ 32 = 0 := by norm_num
  have hhost (g : GeneralParser) : g.getMicroTickCountU64 default = 0 := rfl
  have htype : (ticking clock k).1.useTimestampType ≠ 0 := Nat.one_ne_zero
  simp only [stamps, hnum, hindex, hhost, Function.update_self, if_neg htype]
  rfl

lemma long_ticking (k : ℕ) : ¬(ticking clock k).2.packetLen < 6 := Int.not_lt.mpr (Int.le_refl 6)

lemma succeeds_ticking (k : ℕ) :
    Succeeds default (udp31 default LidarPointXYZICRT Unit) playing (ticking clock) k ∧
    stampsAt default (udp31 default LidarPointXYZICRT Unit) playing (ticking clock) k = ⟨clock k, 0⟩ := by
  have hparser : ∃ p : GeneralParser, p.getCorrectionFile = true ∧
      (played default (udp31 default LidarPointXYZICRT Unit) playing (ticking clock) k).parser = some p := by
    induction k with
    | zero => exact ⟨_, rfl, rfl⟩
    | succ k ih =>
      obtain ⟨p, hp, hplayed⟩ := ih
      obtain ⟨-, -, hnext, -⟩ := decodePacket_val_of_some default (udp31 default LidarPointXYZICRT Unit)
        (ticking clock k).1 hplayed (long_ticking clock k)
      exact ⟨_, (udp31_ticking clock hp k).2.1, hnext⟩
  obtain ⟨p, hp, hplayed⟩ := hparser
  obtain ⟨hret, hframe, -, -⟩ := decodePacket_val_of_some default (udp31 default LidarPointXYZICRT Unit)
    (ticking clock k).1 hplayed (long_ticking clock k)
  obtain ⟨hzero, -, hstamps⟩ := udp31_ticking clock hp k
  exact ⟨hret.trans hzero, (congrArg stamps hframe).trans hstamps⟩

lemma elapsed_ticking (k : ℕ) : elapsed default (udp31 default LidarPointXYZICRT Unit) playing (ticking clock) k =
    (clock k).toNat - (clock (reference k)).toNat := by
  rw [elapsed, (succeeds_ticking clock k).2, (succeeds_ticking clock (reference k)).2, Stamps.ahead, sub_self,
    sub_zero]

/-- A packet every millisecond: two sleeps in 200 packets. -/
theorem sleptAt_exact_iff_steady :
    let calls := ticking fun k => UInt64.ofNat (1000 * k)
    let asked := sleptAt default (udp31 default LidarPointXYZICRT Unit) playing calls
    (∀ k < 200, asked k = if SynchronisationPoint k then
        max 0 (elapsed default (udp31 default LidarPointXYZICRT Unit) playing calls k) else 0) ∧
      asked 99 = 99000 ∧ asked 199 = 100000 := by
  intro calls asked
  have hfirst : elapsed default (udp31 default LidarPointXYZICRT Unit) playing calls 99 = 99000 :=
    (elapsed_ticking _ 99).trans (by decide)
  have hsecond : elapsed default (udp31 default LidarPointXYZICRT Unit) playing calls 199 = 100000 :=
    (elapsed_ticking _ 199).trans (by decide)
  have hasked : ∀ k < 200, asked k = if SynchronisationPoint k then
      max 0 (elapsed default (udp31 default LidarPointXYZICRT Unit) playing calls k) else 0 := by
    refine (sleptAt_exact_iff default (udp31 default LidarPointXYZICRT Unit) playing ⟨rfl, rfl, rfl⟩ rfl calls 200
      fun k _ => (succeeds_ticking _ k).1).mpr fun k hk hpoint => ?_
    rw [SynchronisationPoint] at hpoint
    obtain rfl | rfl : k = 99 ∨ k = 199 := by omega
    · rw [hfirst, Exact]
      norm_num
    · rw [hsecond, Exact]
      norm_num
  refine ⟨hasked, ?_, ?_⟩
  · rw [hasked 99 (by norm_num), if_pos (by decide), hfirst]
    rfl
  · rw [hasked 199 (by norm_num), if_pos (by decide), hsecond]
    rfl

def backwards : ℕ → LidarDecodedFrame LidarPointXYZICRT × UdpPacket := ticking fun k => if k < 99 then 4294967296 else 5

/-- The sensor's clock jumps back by 2^32 - 5 microseconds, and the playback sleeps for 5. -/
theorem sleptAt_backwards :
    (∀ k, Succeeds default (udp31 default LidarPointXYZICRT Unit) playing backwards k) ∧
    ¬∀ k < 100, sleptAt default (udp31 default LidarPointXYZICRT Unit) playing backwards k =
      if SynchronisationPoint k then
        max 0 (elapsed default (udp31 default LidarPointXYZICRT Unit) playing backwards k) else 0 := by
  have hall (k : ℕ) : Succeeds default (udp31 default LidarPointXYZICRT Unit) playing backwards k :=
    (succeeds_ticking _ k).1
  refine ⟨hall, fun h => ?_⟩
  have hpoint : SynchronisationPoint 99 := rfl
  have hslept := h 99 (by norm_num)
  have helapsed : elapsed default (udp31 default LidarPointXYZICRT Unit) playing backwards 99 = 5 - 4294967296 :=
    (elapsed_ticking _ 99).trans (by decide)
  rw [sleptAt_eq default (udp31 default LidarPointXYZICRT Unit) ⟨rfl, rfl, rfl⟩ rfl
    fun j _ => hall j, if_pos hpoint, if_pos hpoint, max_bmod_iff, helapsed] at hslept
  exact absurd (hslept.2 (by norm_num)) (by norm_num)

end Clocks

end UdpParser

end HesaiSdk.Parsing
