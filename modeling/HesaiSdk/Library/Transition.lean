import Mathlib.Logic.Relation
import Mathlib.Order.Nat
import Mathlib.Tactic.Lemma

/-! Systems of several parties: a partial step function of the state and an action. -/

namespace Library.Transition

variable {σ α : Type*} (step : σ → α → Option σ)

def Step (C : σ → α → Prop) (s t : σ) : Prop := ∃ a, C s a ∧ step s a = some t

def Reaches (C : σ → α → Prop) : σ → σ → Prop := Relation.ReflTransGen (Step step C)

variable {step} {C : σ → α → Prop} {s t : σ}

lemma reaches_invariant {P : σ → Prop} (hs : ∀ s a t, C s a → P s → step s a = some t → P t)
    (h : Reaches step C s t) (h0 : P s) : P t := by
  induction h with
  | refl => exact h0
  | tail _ ht ih =>
    obtain ⟨a, ha, hstep⟩ := ht
    exact hs _ a _ ha ih hstep

lemma reaches_imp {D : σ → α → Prop} (hCD : ∀ s a, C s a → D s a) (h : Reaches step C s t) : Reaches step D s t := by
  induction h with
  | refl => exact Relation.ReflTransGen.refl
  | tail _ hlast ih =>
    obtain ⟨a, ha, hstep⟩ := hlast
    exact ih.tail ⟨a, hCD _ a ha, hstep⟩

def exec (step : σ → α → Option σ) : List α → σ → Option σ
  | [], s => some s
  | a :: as, s => (step s a).bind (exec step as)

lemma exec_append {as bs : List α} : exec step (as ++ bs) s = (exec step as s).bind (exec step bs) := by
  induction as generalizing s with
  | nil => rfl
  | cons a as ih =>
    rw [List.cons_append, exec, exec, Option.bind_assoc]
    exact congrArg ((step s a).bind ·) (funext fun u => ih)

lemma reaches_of_exec_forall {A : α → Prop} {as : List α} (ha : ∀ a ∈ as, A a) (h : exec step as s = some t) :
    Reaches step (fun _ a => A a) s t := by
  induction as generalizing s with
  | nil =>
    obtain rfl := Option.some.inj h
    exact Relation.ReflTransGen.refl
  | cons a as ih =>
    obtain ⟨u, hu, ht⟩ := Option.bind_eq_some_iff.mp h
    have hrest := ih (fun b hb => ha b (List.mem_cons_of_mem a hb)) ht
    exact Relation.ReflTransGen.head ⟨a, ha a List.mem_cons_self, hu⟩ hrest

lemma reaches_of_exec {as : List α} (h : exec step as s = some t) : Reaches step (fun _ _ => True) s t :=
  reaches_of_exec_forall (fun _ _ => trivial) h

lemma length_le_of_decreasing {P : σ → Prop} {measure : σ → ℕ} {A : α → Prop}
    (hs : ∀ s a t, A a → P s → step s a = some t → P t ∧ measure t < measure s)
    {as : List α} (ha : ∀ a ∈ as, A a) (hp : P s) (h : exec step as s = some t) :
    P t ∧ as.length + measure t ≤ measure s := by
  induction as generalizing s with
  | nil =>
    obtain rfl := Option.some.inj h
    exact ⟨hp, (Nat.zero_add _).le⟩
  | cons a as ih =>
    obtain ⟨u, hu, ht⟩ := Option.bind_eq_some_iff.mp h
    obtain ⟨hpu, hlt⟩ := hs s a u (ha a List.mem_cons_self) hp hu
    obtain ⟨hpt, hle⟩ := ih (fun b hb => ha b (List.mem_cons_of_mem a hb)) hpu ht
    refine ⟨hpt, ?_⟩
    rw [List.length_cons]
    omega

end Library.Transition
