import Mathlib.Data.Nat.Digits.Defs
import Mathlib.Algebra.Order.Group.Nat
import Mathlib.Tactic.Ring

/-! Fixed-width integers as byte lists, and layouts of byte lists in a memory. -/

namespace Library.ByteLayout

def leNat (bytes : List UInt8) : ℕ := Nat.ofDigits 256 (bytes.map UInt8.toNat)

def leBytes : ℕ → ℕ → List UInt8
  | 0, _ => []
  | w + 1, n => UInt8.ofNat n :: leBytes w (n / 256)

def beNat (bytes : List UInt8) : ℕ := leNat bytes.reverse

def beBytes (w n : ℕ) : List UInt8 := (leBytes w n).reverse

@[simp] lemma leNat_nil : leNat [] = 0 := rfl

@[simp] lemma leNat_cons (b : UInt8) (bytes : List UInt8) :
    leNat (b :: bytes) = b.toNat + 256 * leNat bytes := by
  simp [leNat, Nat.ofDigits_cons]

@[simp] lemma length_leBytes (w n : ℕ) : (leBytes w n).length = w := by
  induction w generalizing n with
  | zero => rfl
  | succ w ih => simp [leBytes, ih]

@[simp] lemma length_beBytes (w n : ℕ) : (beBytes w n).length = w := by
  simp [beBytes]

lemma leNat_leBytes (w n : ℕ) : leNat (leBytes w n) = n % 256 ^ w := by
  induction w generalizing n with
  | zero => simp [leBytes, Nat.mod_one]
  | succ w ih =>
    rw [leBytes, leNat_cons, ih, Nat.pow_succ', Nat.mod_mul]
    simp

lemma leNat_leBytes_of_lt {w n : ℕ} (h : n < 256 ^ w) : leNat (leBytes w n) = n := by
  rw [leNat_leBytes, Nat.mod_eq_of_lt h]

lemma leBytes_leNat (bytes : List UInt8) : leBytes bytes.length (leNat bytes) = bytes := by
  induction bytes with
  | nil => rfl
  | cons b bytes ih =>
    have hb : (b.toNat + 256 * leNat bytes) / 256 = leNat bytes := by
      have hlt := b.toNat_lt
      omega
    rw [List.length_cons, leNat_cons, leBytes, hb, ih, UInt8.ofNat_add]
    simp

lemma beNat_beBytes_of_lt {w n : ℕ} (h : n < 256 ^ w) : beNat (beBytes w n) = n := by
  rw [beNat, beBytes, List.reverse_reverse, leNat_leBytes_of_lt h]

lemma leNat_lt (bytes : List UInt8) : leNat bytes < 256 ^ bytes.length := by
  induction bytes with
  | nil => simp
  | cons b bytes ih =>
    rw [leNat_cons, List.length_cons, Nat.pow_succ']
    have hb := b.toNat_lt
    omega

lemma digit_ofDigits {b : ℕ} {digits : List ℕ} (hb : ∀ d ∈ digits, d < b) {j : ℕ} (hj : j < digits.length) :
    Nat.ofDigits b digits / b ^ j % b = digits[j] := by
  induction digits generalizing j with
  | nil => cases hj
  | cons d digits ih =>
    have hd : d < b := hb d List.mem_cons_self
    cases j with
    | zero =>
      rw [Nat.pow_zero, Nat.div_one, Nat.ofDigits_cons, Nat.add_mul_mod_self_left, Nat.mod_eq_of_lt hd]
      rfl
    | succ j =>
      have hrest := ih (fun e he => hb e (List.mem_cons_of_mem d he)) (Nat.lt_of_succ_lt_succ hj)
      rw [Nat.ofDigits_cons, Nat.pow_succ', ← Nat.div_div_eq_div_mul, Nat.add_mul_div_left _ _ (Nat.zero_lt_of_lt hd),
        Nat.div_eq_of_lt hd, Nat.zero_add, hrest]
      rfl

def bytesAt (mem : ℕ → UInt8) (o w : ℕ) : List UInt8 := (List.range w).map fun i => mem (o + i)

@[simp] lemma length_bytesAt (mem : ℕ → UInt8) (o w : ℕ) : (bytesAt mem o w).length = w := by
  simp [bytesAt]

lemma bytesAt_append (mem : ℕ → UInt8) (o v w : ℕ) :
    bytesAt mem o v ++ bytesAt mem (o + v) w = bytesAt mem o (v + w) := by
  rw [bytesAt, bytesAt, bytesAt, List.range_add, List.map_append, List.map_map]
  simp only [Function.comp_def, Nat.add_assoc]

lemma bytesAt_congr {mem mem' : ℕ → UInt8} {o w : ℕ} (h : ∀ k < o + w, mem k = mem' k) :
    bytesAt mem o w = bytesAt mem' o w :=
  List.map_congr_left fun i hi => h (o + i) (Nat.add_lt_add_left (List.mem_range.mp hi) o)

def Holds (mem : ℕ → UInt8) : ℕ → List UInt8 → Prop
  | _, [] => True
  | o, b :: bytes => mem o = b ∧ Holds mem (o + 1) bytes

def overlay (bytes : List UInt8) (mem : ℕ → UInt8) : ℕ → UInt8 := fun i => bytes.getD i (mem i)

section Holds

variable {mem : ℕ → UInt8}

@[simp] lemma holds_nil (o : ℕ) : Holds mem o [] := trivial

@[simp] lemma holds_cons (o : ℕ) (b : UInt8) (bytes : List UInt8) :
    Holds mem o (b :: bytes) ↔ mem o = b ∧ Holds mem (o + 1) bytes := Iff.rfl

lemma holds_append {o : ℕ} {xs ys : List UInt8} :
    Holds mem o (xs ++ ys) ↔ Holds mem o xs ∧ Holds mem (o + xs.length) ys := by
  induction xs generalizing o with
  | nil => simp
  | cons x xs ih =>
    simp only [List.cons_append, holds_cons, ih, List.length_cons, and_assoc]
    rw [show o + 1 + xs.length = o + (xs.length + 1) by omega]

lemma holds_iff {o : ℕ} {bytes : List UInt8} :
    Holds mem o bytes ↔ bytesAt mem o bytes.length = bytes := by
  induction bytes generalizing o with
  | nil => simp [bytesAt]
  | cons b bytes ih =>
    rw [holds_cons, ih]
    simp only [bytesAt, List.length_cons, List.range_succ_eq_map, List.map_cons, List.map_map,
      Nat.add_zero, List.cons.injEq]
    have he : ((fun i => mem (o + i)) ∘ Nat.succ) = fun i => mem (o + 1 + i) :=
      funext fun i => congrArg mem (by simp only [Nat.succ_eq_add_one]; omega)
    rw [he]

lemma bytesAt_of_holds {o w : ℕ} {bytes : List UInt8} (h : Holds mem o bytes) (hw : bytes.length = w) :
    bytesAt mem o w = bytes :=
  hw ▸ holds_iff.mp h

lemma holds_drop {o k : ℕ} {bytes : List UInt8} (hk : k ≤ bytes.length) (h : Holds mem o bytes) :
    Holds mem (o + k) (bytes.drop k) := by
  rw [← List.take_append_drop k bytes, holds_append, List.length_take, Nat.min_eq_left hk] at h
  exact h.2

lemma holds_of_getElem {o : ℕ} {bytes : List UInt8}
    (h : ∀ i (hi : i < bytes.length), mem (o + i) = bytes[i]) : Holds mem o bytes := by
  induction bytes generalizing o with
  | nil => trivial
  | cons b bytes ih =>
    refine ⟨h 0 (Nat.succ_pos _), ih fun i hi => ?_⟩
    have hb := h (i + 1) (Nat.succ_lt_succ hi)
    rw [List.getElem_cons_succ] at hb
    rw [← hb]
    congr 1
    omega

lemma length_flatMap_range {w n : ℕ} {f : ℕ → List UInt8} (hf : ∀ i < n, (f i).length = w) :
    ((List.range n).flatMap f).length = w * n := by
  induction n with
  | zero => simp
  | succ n ih =>
    rw [List.range_succ, List.flatMap_append, List.length_append, ih fun i hi => hf i (by omega)]
    simp [hf n (by omega), Nat.mul_succ]

lemma holds_overlay (bytes : List UInt8) : Holds (overlay bytes mem) 0 bytes := by
  refine holds_of_getElem fun i hi => ?_
  rw [Nat.zero_add, overlay, List.getD_eq_getElem?_getD, List.getElem?_eq_getElem hi, Option.getD_some]

lemma holds_flatMap_range {o w n : ℕ} {f : ℕ → List UInt8} (hf : ∀ i < n, (f i).length = w)
    (h : Holds mem o ((List.range n).flatMap f)) {i : ℕ} (hi : i < n) : Holds mem (o + w * i) (f i) := by
  obtain ⟨d, rfl⟩ := Nat.exists_eq_add_of_lt hi
  rw [Nat.add_assoc, List.range_add, List.flatMap_append, holds_append,
    length_flatMap_range fun j hj => hf j (by omega)] at h
  have hr := h.2
  rw [List.range_succ_eq_map, List.map_cons, List.flatMap_cons, holds_append] at hr
  simpa using hr.1

lemma holds_map_range {o n k : ℕ} {f : ℕ → UInt8} (h : Holds mem o ((List.range n).map f)) (hk : k < n) :
    mem (o + k) = f k := by
  have hbytes := bytesAt_of_holds h (w := n) (by simp)
  exact List.map_inj_left.mp hbytes k (List.mem_range.mpr hk)

def leTable (w n : ℕ) (entry : ℕ → ℕ) : List UInt8 := (List.range n).flatMap fun i => leBytes w (entry i)

lemma length_leTable (w n : ℕ) (entry : ℕ → ℕ) : (leTable w n entry).length = w * n :=
  length_flatMap_range fun _ _ => length_leBytes w _

lemma leNat_of_leTable {o w n i : ℕ} {entry : ℕ → ℕ} (h : Holds mem o (leTable w n entry)) (hi : i < n)
    (hentry : entry i < 256 ^ w) : leNat (bytesAt mem (o + w * i) w) = entry i := by
  have hholds : Holds mem (o + w * i) (leBytes w (entry i)) :=
    holds_flatMap_range (fun _ _ => length_leBytes w _) h hi
  rw [bytesAt_of_holds hholds (length_leBytes w _), leNat_leBytes_of_lt hentry]

end Holds

end Library.ByteLayout
