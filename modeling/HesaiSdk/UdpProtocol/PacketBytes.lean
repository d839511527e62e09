import HesaiSdk.Library.ByteLayout
import HesaiSdk.Library.Logged
import HesaiSdk.Lidar.Types
import Mathlib.Tactic.IntervalCases

namespace HesaiSdk.UdpProtocol

open Library Library.ByteLayout Lidar

structure Tm where
  tmYear : ℤ
  tmMon : ℤ
  tmMday : ℤ
  tmHour : ℤ
  tmMin : ℤ
  tmSec : ℤ
deriving DecidableEq

/-- What the parsers take from the platform: the memory behind a packet buffer, the C time library,
the successive readings of the microsecond clock and the math library. -/
structure Environment where
  memory : ℕ → UInt8
  mktime : Tm → ℤ
  timezone : ℤ
  clock : ℕ → UInt64
  sin : ℚ → ℚ
  cos : ℚ → ℚ
  tan : ℚ → ℚ
  atan : ℚ → ℚ
  asin : ℚ → ℚ
  sqrt : ℚ → ℚ
  pi : ℚ
deriving Inhabited

/-- The accesses of the parsers that the bounds are about, by offset or index, the divisors of the ET headers, the
sequence numbers given to the loss accounting and the sleeps of the playback. Only the FT120 reads its calibration
while it decodes, by channel and column. -/
inductive DecodeEvent where
  | byte (offset : ℕ)
  | sensorTimestamp (index : ℕ)
  | pointData (index : ℕ)
  | point (index : ℕ)
  | firetime (laserId sectionId : ℕ)
  | angleShift (bits : ℤ)
  | divide (divisor : ℕ)
  | correction (channel column : ℕ)
  | packetLoss (seqNum : UInt32)
  | sleep (micros : ℤ)
deriving DecidableEq

def calendarMicroTime (env : Environment) (year : ℤ) (mon mday hour min sec : UInt8) (micro : UInt32) : UInt64 :=
  let t : Tm := ⟨year, mon.toNat - 1, mday.toNat + 1, hour.toNat, min.toNat, sec.toNat⟩
  UInt64.ofInt ((env.mktime t - env.timezone - 86400) * 1000000 + micro.toNat)

def unixMicroTime (unixSecond micro : UInt32) : UInt64 := unixSecond.toUInt64 * 1000000 + micro.toUInt64

section Reading

variable (env : Environment) (packet : UdpPacket)

def byteAt (o : ℕ) : UInt8 := if h : o < kBufSize then packet.buffer ⟨o, h⟩ else env.memory o

def readBytes (o w : ℕ) : Logged DecodeEvent (List UInt8) :=
  ⟨bytesAt (byteAt env packet) o w, (List.range w).map fun i => .byte (o + i)⟩

def readU8 (o : ℕ) : Logged DecodeEvent UInt8 := ⟨byteAt env packet o, [.byte o]⟩

def readU16 (o : ℕ) : Logged DecodeEvent UInt16 := do
  let bytes ← readBytes env packet o 2
  pure (UInt16.ofNat (leNat bytes))

def readI16 (o : ℕ) : Logged DecodeEvent ℤ := do
  let word ← readU16 env packet o
  pure word.toInt16.toInt

def readU32 (o : ℕ) : Logged DecodeEvent UInt32 := do
  let bytes ← readBytes env packet o 4
  pure (UInt32.ofNat (leNat bytes))

def readU32Big (o : ℕ) : Logged DecodeEvent UInt32 := do
  let bytes ← readBytes env packet o 4
  pure (UInt32.ofNat (beNat bytes))

/-- The delimiter test `buffer[0] != 0xEE || buffer[1] != 0xFF`, negated. -/
def hasDelimiter : Logged DecodeEvent Bool := do
  let first ← readU8 env packet 0
  if first ≠ 0xEE then pure false
  else do
    let second ← readU8 env packet 1
    pure (second == 0xFF)

/-- `GetMicroLidarTimeU64` of the tails. They differ in the year: `tmYear` of the first UTC byte is
the `tm_year` they use, or nothing where they give up and return 0. -/
def getMicroLidarTimeU64 (tmYear : UInt8 → Option ℤ) (utc timestamp : ℕ) : Logged DecodeEvent UInt64 := do
  let year ← readU8 env packet utc
  if year ≠ 0 then
    match tmYear year with
    | none => pure 0
    | some year => do
      let mon ← readU8 env packet (utc + 1)
      let mday ← readU8 env packet (utc + 2)
      let hour ← readU8 env packet (utc + 3)
      let min ← readU8 env packet (utc + 4)
      let sec ← readU8 env packet (utc + 5)
      let micro ← readU32 env packet timestamp
      pure (calendarMicroTime env year mon mday hour min sec micro)
  else do
    let unixSecond ← readU32Big env packet (utc + 2)
    let micro ← readU32 env packet timestamp
    pure (unixMicroTime unixSecond micro)

end Reading

section Bytes

variable {env : Environment} {packet : UdpPacket} {o : ℕ} {P : DecodeEvent → Prop} (hP : ∀ o, P (.byte o))

include hP

lemma allLog_readBytes {w : ℕ} : AllLog P (readBytes env packet o w) := by
  simp [AllLog, readBytes, hP]

lemma allLog_readU8 : AllLog P (readU8 env packet o) := by
  simp [AllLog, readU8, hP]

lemma allLog_readU16 : AllLog P (readU16 env packet o) :=
  allLog_bind.mpr ⟨allLog_readBytes hP, allLog_pure _⟩

lemma allLog_readI16 : AllLog P (readI16 env packet o) :=
  allLog_bind.mpr ⟨allLog_readU16 hP, allLog_pure _⟩

lemma allLog_readU32 : AllLog P (readU32 env packet o) :=
  allLog_bind.mpr ⟨allLog_readBytes hP, allLog_pure _⟩

lemma allLog_readU32Big : AllLog P (readU32Big env packet o) :=
  allLog_bind.mpr ⟨allLog_readBytes hP, allLog_pure _⟩

lemma allLog_hasDelimiter : AllLog P (hasDelimiter env packet) := by
  rw [hasDelimiter, allLog_bind]
  refine ⟨allLog_readU8 hP, ?_⟩
  split
  · exact allLog_pure _
  · exact allLog_bind.mpr ⟨allLog_readU8 hP, allLog_pure _⟩

lemma allLog_getMicroLidarTimeU64 {tmYear : UInt8 → Option ℤ} {utc timestamp : ℕ} :
    AllLog P (getMicroLidarTimeU64 env packet tmYear utc timestamp) := by
  have h8 (o : ℕ) : AllLog P (readU8 env packet o) := allLog_readU8 hP
  rw [getMicroLidarTimeU64, allLog_bind]
  refine ⟨h8 utc, ?_⟩
  split
  · split
    · exact allLog_pure _
    · simp only [allLog_bind, h8, allLog_readU32 hP, allLog_pure, and_self]
  · simp only [allLog_bind, allLog_readU32Big hP, allLog_readU32 hP, allLog_pure, and_self]

end Bytes

structure Bounds where
  byte : ℕ → Prop := fun _ => True
  sensorTimestamp : ℕ → Prop := fun _ => True
  pointData : ℕ → Prop := fun _ => True
  point : ℕ → Prop := fun _ => True
  packetLoss : UInt32 → Prop := fun _ => True

namespace Bounds

def Allows (bounds : Bounds) : DecodeEvent → Prop
  | .byte o => bounds.byte o
  | .sensorTimestamp i => bounds.sensorTimestamp i
  | .pointData i => bounds.pointData i
  | .point i => bounds.point i
  | .packetLoss n => bounds.packetLoss n
  | _ => True

section Kinds

variable {α : Type} {x : Logged DecodeEvent α}

lemma allows_byte {P : ℕ → Prop} :
    AllLog (Allows { byte := P }) x ↔ ∀ o, .byte o ∈ x.log → P o := by
  refine ⟨fun h o he => h _ he, fun h e he => ?_⟩
  cases e with
  | byte o => exact h o he
  | _ => trivial

lemma allows_sensorTimestamp {P : ℕ → Prop} :
    AllLog (Allows { sensorTimestamp := P }) x ↔ ∀ i, .sensorTimestamp i ∈ x.log → P i := by
  refine ⟨fun h i he => h _ he, fun h e he => ?_⟩
  cases e with
  | sensorTimestamp i => exact h i he
  | _ => trivial

lemma allows_pointData {P : ℕ → Prop} :
    AllLog (Allows { pointData := P }) x ↔ ∀ i, .pointData i ∈ x.log → P i := by
  refine ⟨fun h i he => h _ he, fun h e he => ?_⟩
  cases e with
  | pointData i => exact h i he
  | _ => trivial

lemma allows_packetLoss {P : UInt32 → Prop} :
    AllLog (Allows { packetLoss := P }) x ↔ ∀ n, .packetLoss n ∈ x.log → P n := by
  refine ⟨fun h n he => h _ he, fun h e he => ?_⟩
  cases e with
  | packetLoss n => exact h n he
  | _ => trivial

end Kinds

end Bounds

section Bounds

variable {env : Environment} {packet : UdpPacket} {bounds : Bounds} {o : ℕ}

lemma allows_readBytes {w : ℕ} :
    AllLog bounds.Allows (readBytes env packet o w) ↔ ∀ i < w, bounds.byte (o + i) := by
  simp only [AllLog, readBytes, List.mem_map, List.mem_range, forall_exists_index, and_imp,
    forall_apply_eq_imp_iff₂, Bounds.Allows]

@[simp] lemma allows_readU8 : AllLog bounds.Allows (readU8 env packet o) ↔ bounds.byte o := by
  simp [AllLog, readU8, Bounds.Allows]

@[simp] lemma allows_readU16 :
    AllLog bounds.Allows (readU16 env packet o) ↔ ∀ i < 2, bounds.byte (o + i) := by
  simp [readU16, allows_readBytes]

@[simp] lemma allows_readU32 :
    AllLog bounds.Allows (readU32 env packet o) ↔ ∀ i < 4, bounds.byte (o + i) := by
  simp [readU32, allows_readBytes]

@[simp] lemma allows_readU32Big :
    AllLog bounds.Allows (readU32Big env packet o) ↔ ∀ i < 4, bounds.byte (o + i) := by
  simp [readU32Big, allows_readBytes]

@[simp] lemma readU8_val : (readU8 env packet o).val = byteAt env packet o := rfl

def TimeBytes (env : Environment) (packet : UdpPacket) (tmYear : UInt8 → Option ℤ) (utc timestamp : ℕ)
    (byte : ℕ → Prop) : Prop :=
  if byteAt env packet utc ≠ 0 ∧ tmYear (byteAt env packet utc) = none then byte utc
  else if byteAt env packet utc ≠ 0 then (∀ i < 6, byte (utc + i)) ∧ ∀ i < 4, byte (timestamp + i)
  else byte utc ∧ (∀ i < 4, byte (utc + 2 + i)) ∧ ∀ i < 4, byte (timestamp + i)

@[simp] lemma timeBytes_true {tmYear : UInt8 → Option ℤ} {utc timestamp : ℕ} :
    TimeBytes env packet tmYear utc timestamp fun _ => True := by
  simp [TimeBytes]

lemma timeBytes_of_le {tmYear : UInt8 → Option ℤ} {utc timestamp : ℕ} {byte : ℕ → Prop}
    (hbyte : ∀ o, utc ≤ o → byte o) (hts : utc ≤ timestamp) : TimeBytes env packet tmYear utc timestamp byte := by
  rw [TimeBytes]
  split_ifs
  · exact hbyte _ le_rfl
  · exact ⟨fun i _ => hbyte _ (by omega), fun i _ => hbyte _ (by omega)⟩
  · exact ⟨hbyte _ le_rfl, fun i _ => hbyte _ (by omega), fun i _ => hbyte _ (by omega)⟩

lemma allows_getMicroLidarTimeU64 {tmYear : UInt8 → Option ℤ} {utc timestamp : ℕ} :
    AllLog bounds.Allows (getMicroLidarTimeU64 env packet tmYear utc timestamp) ↔
      TimeBytes env packet tmYear utc timestamp bounds.byte := by
  rw [getMicroLidarTimeU64, allLog_bind, allows_readU8, readU8_val, TimeBytes]
  by_cases hy : byteAt env packet utc = 0
  · simp only [hy, ne_eq, not_true_eq_false, if_false, false_and, allLog_bind, allows_readU32Big,
      allows_readU32, allLog_pure, and_true]
  · cases ht : tmYear (byteAt env packet utc) with
    | none => simp [hy]
    | some year =>
      simp only [ne_eq, hy, not_false_eq_true, if_true, allLog_bind, allows_readU8, allows_readU32,
        allLog_pure, and_true, reduceCtorEq, and_false, if_false]
      constructor
      · rintro ⟨h0, h1, h2, h3, h4, h5, ht⟩
        refine ⟨fun i hi => ?_, ht⟩
        interval_cases i <;> assumption
      · rintro ⟨h, ht⟩
        exact ⟨h 0 (by omega), h 1 (by omega), h 2 (by omega), h 3 (by omega), h 4 (by omega),
          h 5 (by omega), ht⟩

end Bounds

section Layout

variable {env : Environment} {packet : UdpPacket} {o : ℕ}

lemma readU16_of_holds {x : UInt16} (h : Holds (byteAt env packet) o (leBytes 2 x.toNat)) :
    (readU16 env packet o).val = x := by
  have hb := bytesAt_of_holds h (length_leBytes 2 _)
  have hx : x.toNat < 256 ^ 2 := x.toNat_lt
  simp only [readU16, readBytes, val_bind, val_pure, hb, leNat_leBytes_of_lt hx, UInt16.ofNat_toNat]

lemma readU32_of_holds {x : UInt32} (h : Holds (byteAt env packet) o (leBytes 4 x.toNat)) :
    (readU32 env packet o).val = x := by
  have hb := bytesAt_of_holds h (length_leBytes 4 _)
  have hx : x.toNat < 256 ^ 4 := x.toNat_lt
  simp only [readU32, readBytes, val_bind, val_pure, hb, leNat_leBytes_of_lt hx, UInt32.ofNat_toNat]

end Layout

end HesaiSdk.UdpProtocol
