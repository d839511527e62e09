import Mathlib.Data.List.Basic
import Mathlib.Tactic.Lemma

/-! Computations that note the accesses they make, in order. -/

namespace Library

universe u v

structure Logged (ε : Type u) (α : Type v) where
  val : α
  log : List ε

variable {ε α β σ : Type*}

namespace Logged

protected def pure (a : α) : Logged ε α := ⟨a, []⟩

protected def bind (x : Logged ε α) (f : α → Logged ε β) : Logged ε β :=
  ⟨(f x.val).val, x.log ++ (f x.val).log⟩

instance : Monad (Logged ε) where
  pure := Logged.pure
  bind := Logged.bind

@[ext] lemma ext {x y : Logged ε α} (hv : x.val = y.val) (hl : x.log = y.log) : x = y := by
  cases x
  cases y
  cases hv
  cases hl
  rfl

end Logged

def note (e : ε) : Logged ε Unit := ⟨(), [e]⟩

section Values

variable {α β σ : Type u}

@[simp] lemma val_pure (a : α) : (pure a : Logged ε α).val = a := (rfl)

@[simp] lemma log_pure (a : α) : (pure a : Logged ε α).log = [] := (rfl)

@[simp] lemma val_bind (x : Logged ε α) (f : α → Logged ε β) : (x >>= f).val = (f x.val).val := (rfl)

@[simp] lemma log_bind (x : Logged ε α) (f : α → Logged ε β) :
    (x >>= f).log = x.log ++ (f x.val).log := (rfl)

@[simp] lemma val_note (e : ε) : (note e).val = () := rfl

@[simp] lemma log_note (e : ε) : (note e).log = [e] := rfl

@[simp] lemma val_ite (c : Prop) [Decidable c] (x y : Logged ε α) :
    (if c then x else y).val = if c then x.val else y.val := by
  split <;> rfl

end Values

def relabel {ε' : Type*} (f : ε → ε') (x : Logged ε α) : Logged ε' α := ⟨x.val, x.log.map f⟩

@[simp] lemma val_relabel {ε' : Type*} (f : ε → ε') (x : Logged ε α) : (relabel f x).val = x.val := rfl

@[simp] lemma log_relabel {ε' : Type*} (f : ε → ε') (x : Logged ε α) :
    (relabel f x).log = x.log.map f := rfl

/-- A C++ counting loop `for (i = 0; i < n; i++)` over a state. -/
def loop (f : ℕ → σ → Logged ε σ) : ℕ → σ → Logged ε σ
  | 0, s => ⟨s, []⟩
  | n + 1, s => ⟨(f n (loop f n s).val).val, (loop f n s).log ++ (f n (loop f n s).val).log⟩

section Loop

variable {f : ℕ → σ → Logged ε σ} {s : σ}

@[simp] lemma loop_zero : loop f 0 s = ⟨s, []⟩ := rfl

lemma val_loop_succ (n : ℕ) : (loop f (n + 1) s).val = (f n (loop f n s).val).val := rfl

lemma log_loop_succ (n : ℕ) :
    (loop f (n + 1) s).log = (loop f n s).log ++ (f n (loop f n s).val).log := rfl

lemma loop_trajectory {n : ℕ} (g : ℕ → σ) (l : ℕ → List ε) (h0 : s = g 0)
    (hs : ∀ i < n, f i (g i) = ⟨g (i + 1), l i⟩) : loop f n s = ⟨g n, (List.range n).flatMap l⟩ := by
  induction n with
  | zero => rw [loop_zero, h0, List.range_zero, List.flatMap_nil]
  | succ n ih =>
    have hn := ih fun i hi => hs i (Nat.lt_succ_of_lt hi)
    have hlast := hs n (Nat.lt_succ_self n)
    apply Logged.ext
    · rw [val_loop_succ, hn, hlast]
    · rw [log_loop_succ, hn, hlast, List.range_succ, List.flatMap_append, List.flatMap_singleton]

lemma mem_log_loop {e : ε} {n : ℕ} :
    e ∈ (loop f n s).log ↔ ∃ i < n, e ∈ (f i (loop f i s).val).log := by
  induction n with
  | zero => simp
  | succ n ih =>
    rw [log_loop_succ, List.mem_append, ih]
    constructor
    · rintro (⟨i, hi, he⟩ | he)
      · exact ⟨i, Nat.lt_succ_of_lt hi, he⟩
      · exact ⟨n, Nat.lt_succ_self n, he⟩
    · rintro ⟨i, hi, he⟩
      rcases Nat.lt_succ_iff_lt_or_eq.mp hi with h | rfl
      · exact Or.inl ⟨i, h, he⟩
      · exact Or.inr he

end Loop

def runs {ι : Type*} (step : σ → ι → Logged ε σ) : List ι → σ → Logged ε σ
  | [], s => ⟨s, []⟩
  | i :: is, s => ⟨(runs step is (step s i).val).val, (step s i).log ++ (runs step is (step s i).val).log⟩

section Runs

variable {ι : Type*} {step : σ → ι → Logged ε σ}

lemma runs_append (is js : List ι) (s : σ) : runs step (is ++ js) s =
    ⟨(runs step js (runs step is s).val).val,
      (runs step is s).log ++ (runs step js (runs step is s).val).log⟩ := by
  induction is generalizing s with
  | nil => simp [runs]
  | cons i is ih => simp [runs, ih]

def Guarded (C : σ → ι → Prop) (step : σ → ι → Logged ε σ) : List ι → σ → Prop
  | [], _ => True
  | i :: is, s => C s i ∧ Guarded C step is (step s i).val

lemma runs_guarded {P : List ε → σ → Prop} {C : σ → ι → Prop}
    (hs : ∀ history s i, C s i → P history s → P (history ++ (step s i).log) (step s i).val)
    {is : List ι} {history : List ε} {s : σ} (hi : Guarded C step is s) (h0 : P history s) :
    P (history ++ (runs step is s).log) (runs step is s).val := by
  induction is generalizing history s with
  | nil => simpa [runs] using h0
  | cons i is ih =>
    have h1 := hs history s i hi.1 h0
    simpa [runs] using ih hi.2 h1

lemma guarded_of_forall {C : ι → Prop} {is : List ι} (h : ∀ i ∈ is, C i) (s : σ) :
    Guarded (fun _ => C) step is s := by
  induction is generalizing s with
  | nil => trivial
  | cons i is ih => exact ⟨h i List.mem_cons_self, ih (fun j hj => h j (List.mem_cons_of_mem i hj)) _⟩

lemma Guarded.and_forall {C : σ → ι → Prop} {D : ι → Prop} {is : List ι} {s : σ} (h : Guarded C step is s)
    (hd : ∀ i ∈ is, D i) : Guarded (fun s i => C s i ∧ D i) step is s := by
  induction is generalizing s with
  | nil => trivial
  | cons i is ih =>
    exact ⟨⟨h.1, hd i List.mem_cons_self⟩, ih h.2 fun j hj => hd j (List.mem_cons_of_mem i hj)⟩

lemma runs_invariant {P : List ε → σ → Prop} {C : ι → Prop}
    (hs : ∀ history s i, C i → P history s → P (history ++ (step s i).log) (step s i).val)
    {is : List ι} (hi : ∀ i ∈ is, C i) {history : List ε} {s : σ} (h0 : P history s) :
    P (history ++ (runs step is s).log) (runs step is s).val :=
  runs_guarded hs (guarded_of_forall hi s) h0

end Runs

def AllLog (P : ε → Prop) (x : Logged ε α) : Prop := ∀ e ∈ x.log, P e

section AllLog

variable {P : ε → Prop}

lemma allLog_of_log_eq_nil {x : Logged ε α} (h : x.log = []) : AllLog P x := by
  simp [AllLog, h]

section Monad

variable {α β : Type u}

@[simp] lemma allLog_pure (a : α) : AllLog P (pure a : Logged ε α) := by
  simp [AllLog]

@[simp] lemma allLog_bind {x : Logged ε α} {f : α → Logged ε β} :
    AllLog P (x >>= f) ↔ AllLog P x ∧ AllLog P (f x.val) := by
  simp only [AllLog, log_bind, List.mem_append, or_imp, forall_and]

@[simp] lemma allLog_note {e : ε} : AllLog P (note e) ↔ P e := by
  simp [AllLog]

end Monad

lemma allLog_relabel {ε' : Type*} {Q : ε' → Prop} {f : ε → ε'} (hf : ∀ e, Q (f e) ↔ P e) {x : Logged ε α} :
    AllLog Q (relabel f x) ↔ AllLog P x := by
  simp only [AllLog, log_relabel, List.forall_mem_map, hf]

lemma allLog_loop {f : ℕ → σ → Logged ε σ} {n : ℕ} {s : σ} :
    AllLog P (loop f n s) ↔ ∀ i < n, AllLog P (f i (loop f i s).val) := by
  simp only [AllLog, mem_log_loop]
  constructor
  · exact fun h i hi e he => h e ⟨i, hi, he⟩
  · rintro h e ⟨i, hi, he⟩
    exact h i hi e he

end AllLog

end Library
