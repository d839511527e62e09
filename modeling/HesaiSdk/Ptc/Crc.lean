import HesaiSdk.Library.BitSerial
import Mathlib.Data.List.FinRange
import Mathlib.Logic.Function.Basic

/-! The table of `CRCInit`, and the checksum of `CRCCalc` with it. -/

namespace HesaiSdk.Ptc

open Library.BitSerial

namespace PtcClient

def crcPolynomial : BitVec 32 := 0x04c11db7

def tableStep (k j : BitVec 32) : BitVec 32 :=
  (k <<< 1) ^^^ (if (k ^^^ j) &&& 0x80000000 ≠ 0 then crcPolynomial else 0)

/-- The inner loop of `CRCInit`: how often it goes round and the `k` it ends with, unless the fuel is out
before `j` is `0x80000000`. -/
def tableLoop : ℕ → BitVec 32 → BitVec 32 → Option (ℕ × BitVec 32)
  | 0, _, _ => none
  | fuel + 1, k, j =>
    if j = 0x80000000 then some (0, k)
    else (tableLoop fuel (tableStep k j) (j <<< 1)).map (Prod.map (· + 1) id)

def tableEntry (fuel : ℕ) (i : Fin 256) : Option (ℕ × BitVec 32) :=
  tableLoop fuel 0 ((BitVec.ofNat 32 i <<< 24) ||| 0x800000)

def crcInit (fuel : ℕ) (table : Fin 256 → BitVec 32) : Option (Fin 256 → BitVec 32) :=
  (List.finRange 256).foldlM (fun table i => (tableEntry fuel i).map fun p => Function.update table i p.2) table

def crcIndex (crc : BitVec 32) (byte : UInt8) : Fin 256 :=
  ⟨(((crc >>> 24) ^^^ byte.toBitVec.setWidth 32) &&& 0xff).toNat, Nat.and_lt_two_pow (n := 8) _ (by decide)⟩

def crcCalc (table : Fin 256 → BitVec 32) (bytes : List UInt8) : BitVec 32 :=
  bytes.foldl (fun crc byte => (crc <<< 8) ^^^ table (crcIndex crc byte)) 0xffffffff

/-- The checksum bit by bit: no bit is reflected, and nothing is laid over the end. -/
def crcSerial (bytes : List UInt8) : BitVec 32 :=
  serial crcPolynomial (bytes.flatMap fun byte => bitsOf byte.toBitVec) 0xffffffff

def serialTable (i : Fin 256) : BitVec 32 := serial crcPolynomial (bitsOf (BitVec.ofNat 8 i)) 0

lemma tableStep_eq (k j : BitVec 32) : tableStep k j = shiftIn crcPolynomial k j.msb := by
  have hmsb : ((k ^^^ j) &&& 0x80000000 ≠ 0) ↔ (k.msb ^^ j.msb) = true := by
    rw [← BitVec.msb_xor]
    exact and_intMin_ne_zero (by decide)
  rw [tableStep, shiftIn]
  exact congrArg _ (if_congr hmsb rfl rfl)

lemma tableLoop_align {n : ℕ} {bits : List Bool} {k : BitVec 32} (h : bits.length < 32) :
    tableLoop (n + bits.length + 1) k (align 32 (bits ++ [true])) =
      some (bits.length, serial crcPolynomial bits k) := by
  induction bits generalizing k with
  | nil =>
    have hj : align 32 ([] ++ [true]) = 0x80000000 := (align_concat_eq_intMin h).mpr rfl
    rw [hj, tableLoop, if_pos rfl]
    rfl
  | cons b bits ih =>
    have hj : align 32 (b :: bits ++ [true]) ≠ 0x80000000 :=
      mt (align_concat_eq_intMin h).mp (List.cons_ne_nil b bits)
    have hnext : align 32 (b :: bits ++ [true]) <<< 1 = align 32 (bits ++ [true]) :=
      align_cons_shiftLeft (List.length_append.trans_lt h)
    have hstep : tableStep k (align 32 (b :: bits ++ [true])) = shiftIn crcPolynomial k b := by
      rw [tableStep_eq, List.cons_append, msb_align_cons (Nat.zero_lt_of_lt h)]
    rw [tableLoop, if_neg hj, hnext, hstep, List.length_cons, ← Nat.add_assoc, ih (Nat.lt_of_succ_lt h)]
    rfl

lemma tableStart (i : Fin 256) :
    (BitVec.ofNat 32 i <<< 24) ||| 0x800000 = align 32 (bitsOf (BitVec.ofNat 8 i) ++ [true]) := by
  revert i
  decide +kernel

lemma tableEntry_eq (n : ℕ) (i : Fin 256) :
    tableEntry (n + 9) i = some (8, serialTable i) := by
  have h := tableLoop_align (n := n) (k := 0) (length_bitsOf (m := BitVec.ofNat 8 i).trans_lt (by decide))
  rw [← tableStart, length_bitsOf] at h
  exact h

lemma foldlM_update {v : Fin 256 → BitVec 32} (l : List (Fin 256)) (table : Fin 256 → BitVec 32) :
    l.foldlM (fun table i => some (Function.update table i (v i))) table =
      some fun i => if i ∈ l then v i else table i := by
  induction l generalizing table with
  | nil => rfl
  | cons i l ih =>
    rw [List.foldlM_cons]
    refine (ih _).trans (congrArg some (funext fun j => ?_))
    by_cases hl : j ∈ l
    · rw [if_pos hl, if_pos (List.mem_cons_of_mem i hl)]
    · by_cases hj : j = i
      · subst hj
        rw [if_neg hl, Function.update_self, if_pos List.mem_cons_self]
      · rw [if_neg hl, Function.update_of_ne hj, if_neg fun h => (List.mem_cons.mp h).elim hj hl]

lemma crcInit_eq (n : ℕ) (table : Fin 256 → BitVec 32) :
    crcInit (n + 9) table = some serialTable := by
  simp only [crcInit, tableEntry_eq, Option.map_some]
  rw [foldlM_update]
  simp only [List.mem_finRange, if_true]

lemma crcIndex_eq (crc : BitVec 32) (byte : UInt8) :
    BitVec.ofNat 8 (crcIndex crc byte) = (crc >>> 24).setWidth 8 ^^^ byte.toBitVec := by
  have hlow (x : BitVec 32) : BitVec.ofNat 8 (x &&& 0xff).toNat = x.setWidth 8 := by
    apply BitVec.eq_of_toNat_eq
    rw [BitVec.toNat_ofNat, BitVec.toNat_and, BitVec.toNat_setWidth]
    exact (congrArg (· % 2 ^ 8) (Nat.and_two_pow_sub_one_eq_mod x.toNat 8)).trans (Nat.mod_mod _ _)
  have hbyte : (byte.toBitVec.setWidth 32).setWidth 8 = byte.toBitVec := by
    rw [BitVec.setWidth_setWidth_of_le _ (by decide), BitVec.setWidth_eq]
  rw [crcIndex, hlow, BitVec.setWidth_xor, hbyte]

lemma foldl_serial (bytes : List UInt8) (crc : BitVec 32) :
    bytes.foldl (fun (crc : BitVec 32) byte => (crc <<< 8) ^^^ serialTable (crcIndex crc byte)) crc =
      serial crcPolynomial (bytes.flatMap fun byte => bitsOf byte.toBitVec) crc := by
  induction bytes generalizing crc with
  | nil => rfl
  | cons byte bytes ih =>
    have hbyte : serial crcPolynomial (bitsOf byte.toBitVec) crc =
        (crc <<< 8) ^^^ serialTable (crcIndex crc byte) := by
      rw [serialTable, crcIndex_eq]
      exact serial_chunk (by decide)
    rw [List.foldl_cons, ← hbyte, ih, List.flatMap_cons, serial, serial, serial, List.foldl_append]

/-- Every entry of the table takes the inner loop eight rounds, and with the table the checksum of every
byte string is the one bit by bit. -/
theorem crcCalc_eq_serial (n : ℕ) (memory : Fin 256 → BitVec 32) :
    (∀ i, (tableEntry (n + 9) i).map Prod.fst = some 8) ∧
      ∃ table, crcInit (n + 9) memory = some table ∧ ∀ bytes, crcCalc table bytes = crcSerial bytes := by
  refine ⟨fun i => ?_, _, crcInit_eq n memory, fun bytes => foldl_serial bytes _⟩
  rw [tableEntry_eq]
  rfl

example : crcSerial [0x31, 0x32, 0x33, 0x34, 0x35, 0x36, 0x37, 0x38, 0x39] = 0x0376e6e7 := by decide +kernel

end PtcClient

end HesaiSdk.Ptc
