import HesaiSdk.Driver.PointBound
import HesaiSdk.Driver.Pipeline
import HesaiSdk.Library.Transition
import Mathlib.Algebra.Order.BigOperators.Group.Finset
import Mathlib.Algebra.Order.Group.Multiset

/-! The indices that `Run` has handed out, and the counter it waits for. -/

namespace HesaiSdk.Driver

open Library Library.Transition Lidar UdpProtocol Parsing

variable {σ Pt Fault : Type} {n : ℕ}

namespace Hand

def indices : Hand → Multiset ℕ
  | popped k => {k}
  | _ => 0

def uncounted : Hand → ℕ
  | computed => 1
  | _ => 0

def work : Hand → ℕ
  | idle => 0
  | popped _ => 2
  | computed => 1

def parserWork : Hand → ℕ
  | idle => 0
  | popped _ => 4
  | computed => 1

end Hand

namespace Handle

def indices (h : Handle) : Multiset ℕ := h.packetBuffer + h.hand.indices

def work (h : Handle) : ℕ := 3 * h.packetBuffer.length + h.hand.work

end Handle

lemma sum_update {M : Type*} [AddCommMonoid M] (g : Handle → M) (handles : Fin n → Handle) (i : Fin n)
    (h : Handle) : ∑ j, g (Function.update handles i h j) + g (handles i) = ∑ j, g (handles j) + g h := by
  have hg (j : Fin n) : g (Function.update handles i h j) = Function.update (g ∘ handles) i (g h) j := by
    by_cases hj : j = i
    · subst hj
      simp
    · simp [hj]
  have hsplit := Finset.add_sum_erase Finset.univ (g ∘ handles) (Finset.mem_univ i)
  rw [Finset.sum_congr rfl fun j _ => hg j, Finset.sum_update_of_mem (Finset.mem_univ i),
    ← Finset.erase_eq, add_assoc, add_comm (g h)]
  exact congrArg (· + g h) ((add_comm _ _).trans hsplit)

section Update

variable {M : Type*} [AddCancelCommMonoid M] {g : Handle → M} {handles : Fin n → Handle} {i : Fin n}
  {h : Handle} {d : M}

lemma sum_update_of_add (hd : g h = g (handles i) + d) :
    ∑ j, g (Function.update handles i h j) = ∑ j, g (handles j) + d := by
  have hs := sum_update g handles i h
  rw [hd, ← add_assoc, add_right_comm] at hs
  exact add_right_cancel hs

lemma sum_of_update_add (hd : g (handles i) = g h + d) :
    ∑ j, g (handles j) = ∑ j, g (Function.update handles i h j) + d := by
  have hs := sum_update g handles i h
  rw [hd, ← add_assoc, add_right_comm] at hs
  exact (add_right_cancel hs).symm

lemma sum_update_of_eq (hd : g h = g (handles i)) :
    ∑ j, g (Function.update handles i h j) = ∑ j, g (handles j) := by
  have hs := sum_update_of_add (hd.trans (add_zero _).symm)
  rwa [add_zero] at hs

end Update

namespace Pipeline

def uncomputed (s : Pipeline σ Pt Fault n) : Multiset ℕ :=
  s.decodedPacketsBuffer + s.parser.indices + ∑ i, (s.handles i).indices

def uncounted (s : Pipeline σ Pt Fault n) : ℕ := s.parser.uncounted + ∑ i, (s.handles i).hand.uncounted

def outstanding (s : Pipeline σ Pt Fault n) : ℕ := s.uncomputed.card + s.uncounted

def front (s : Pipeline σ Pt Fault n) :
    RunState σ Pt Fault × RunPc × (ℕ → Pt) × (ℕ → ℕ) × List ℕ × List (Published Pt) :=
  (s.main, s.pc, s.sequential, s.writes, s.dropped, s.published)

inductive Worked (P : Parser σ Pt Fault) (s t : Pipeline σ Pt Fault n) : Prop
  | moved (front : t.front = s.front) (uncomputed : t.uncomputed = s.uncomputed)
      (uncounted : t.uncounted = s.uncounted) (counter : t.computePacketNum = s.computePacketNum)
  | computed (k : ℕ) (front : t.front = (s.compute P k).front)
      (uncomputed : s.uncomputed = k ::ₘ t.uncomputed) (uncounted : t.uncounted = s.uncounted + 1)
      (counter : t.computePacketNum = s.computePacketNum)
  | added (front : t.front = s.front) (uncomputed : t.uncomputed = s.uncomputed)
      (uncounted : s.uncounted = t.uncounted + 1)
      (counter : t.computePacketNum = (s.computePacketNum + 1) % 2 ^ 32)

variable {P : Parser σ Pt Fault} {s t : Pipeline σ Pt Fault n}

lemma uncomputed_eq (i : Fin n) : s.uncomputed = s.decodedPacketsBuffer + s.parser.indices +
    ((s.handles i).indices + ∑ j ∈ Finset.univ.erase i, (s.handles j).indices) := by
  rw [uncomputed, Finset.add_sum_erase Finset.univ (fun j => (s.handles j).indices) (Finset.mem_univ i)]

lemma length_packetBuffer_lt {k : ℕ} (i : Fin n) (hp : s.parser = .popped k) :
    (s.handles i).packetBuffer.length < s.uncomputed.card := by
  rw [s.uncomputed_eq i, hp]
  simp only [Handle.indices, Hand.indices, Multiset.card_add, Multiset.coe_card, Multiset.card_singleton]
  omega

lemma dispatch_worked {k : ℕ} (i : Fin n) (hp : s.parser = .popped k)
    (hcard : s.uncomputed.card ≤ kPacketBufferSize) : Worked P s (s.dispatch k i) := by
  have hlen : ¬kPacketBufferSize < ((s.handles i).packetBuffer ++ [k]).length := by
    have := length_packetBuffer_lt i hp
    rw [List.length_append, List.length_singleton]
    omega
  let h : Handle := { s.handles i with packetBuffer := (s.handles i).packetBuffer ++ [k] }
  have hidx : h.indices = (s.handles i).indices + {k} := by
    rw [Handle.indices, Handle.indices, ← Multiset.coe_add, Multiset.coe_singleton, add_right_comm]
  apply Worked.moved
  · simp only [front, dispatch, if_neg hlen]
  · simp only [uncomputed, dispatch, if_neg hlen, hp, Hand.indices]
    rw [sum_update_of_add hidx, add_zero, add_assoc, add_comm ({k} : Multiset ℕ)]
  · simp only [uncounted, dispatch, if_neg hlen, hp]
    exact congrArg (0 + ·) (sum_update_of_eq (g := fun h => h.hand.uncounted) rfl)
  · rfl

lemma parserStep_worked (h : s.parserStep P = some t) (hcard : s.uncomputed.card ≤ kPacketBufferSize) :
    Worked P s t := by
  rw [parserStep] at h
  cases hp : s.parser with
  | idle =>
    cases hd : s.decodedPacketsBuffer with
    | nil => simp [hp, hd] at h
    | cons k rest =>
      simp only [hp, hd, Option.some.injEq] at h
      subst h
      apply Worked.moved
      · rfl
      · simp only [uncomputed, hp, hd, Hand.indices, ← Multiset.cons_coe, add_zero]
        rw [add_comm (rest : Multiset ℕ), Multiset.singleton_add]
      · simp only [uncounted, hp, Hand.uncounted]
      · rfl
  | popped k =>
    simp only [hp] at h
    split_ifs at h with hn hi
    · obtain rfl := Option.some.inj h
      apply Worked.computed k
      · rfl
      · simp only [uncomputed, compute, hp, Hand.indices, add_zero]
        rw [add_right_comm, add_comm _ ({k} : Multiset ℕ), Multiset.singleton_add]
      · simp only [uncounted, compute, hp, Hand.uncounted]
        omega
      · rfl
    · obtain rfl := Option.some.inj h
      exact dispatch_worked _ hp hcard
  | computed =>
    simp only [hp, Option.some.injEq] at h
    subst h
    apply Worked.added
    · rfl
    · simp only [uncomputed, frameNumAdd, hp, Hand.indices]
    · simp only [uncounted, frameNumAdd, hp, Hand.uncounted]
      omega
    · rfl

lemma handleStep_worked {i : Fin n} (h : s.handleStep P i = some t) : Worked P s t := by
  rw [handleStep] at h
  cases hh : (s.handles i).hand with
  | idle =>
    cases hb : (s.handles i).packetBuffer with
    | nil => simp [hh, hb] at h
    | cons k rest =>
      simp only [hh, hb, Option.some.injEq] at h
      subst h
      have hidx : Handle.indices ⟨rest, .popped k⟩ = (s.handles i).indices := by
        rw [Handle.indices, Handle.indices, hb, hh, ← Multiset.cons_coe, ← Multiset.singleton_add, add_comm]
        exact (add_zero _).symm
      apply Worked.moved
      · rfl
      · exact congrArg (s.decodedPacketsBuffer + s.parser.indices + ·) (sum_update_of_eq hidx)
      · refine congrArg (s.parser.uncounted + ·) (sum_update_of_eq (g := fun h => h.hand.uncounted) ?_)
        rw [hh]
        rfl
      · rfl
  | popped k =>
    simp only [hh, Option.some.injEq] at h
    subst h
    have hidx : (s.handles i).indices = Handle.indices ⟨(s.handles i).packetBuffer, .computed⟩ + {k} := by
      rw [Handle.indices, Handle.indices, hh]
      exact congrArg (· + ({k} : Multiset ℕ)) (add_zero _).symm
    have hunc : (fun h : Handle => h.hand.uncounted) ⟨(s.handles i).packetBuffer, .computed⟩ =
        (s.handles i).hand.uncounted + 1 := by
      rw [hh]
      rfl
    apply Worked.computed k
    · rfl
    · rw [uncomputed, sum_of_update_add hidx, ← add_assoc, add_comm _ ({k} : Multiset ℕ), Multiset.singleton_add]
      rfl
    · exact congrArg (s.parser.uncounted + ·) (sum_update_of_add (g := fun h => h.hand.uncounted) hunc)
    · rfl
  | computed =>
    simp only [hh, Option.some.injEq] at h
    subst h
    have hidx : Handle.indices ⟨(s.handles i).packetBuffer, .idle⟩ = (s.handles i).indices := by
      rw [Handle.indices, Handle.indices, hh]
      rfl
    have hunc : (s.handles i).hand.uncounted =
        (fun h : Handle => h.hand.uncounted) ⟨(s.handles i).packetBuffer, .idle⟩ + 1 := by
      rw [hh]
      rfl
    apply Worked.added
    · rfl
    · exact congrArg (s.decodedPacketsBuffer + s.parser.indices + ·) (sum_update_of_eq hidx)
    · exact congrArg (s.parser.uncounted + ·) (sum_of_update_add (g := fun h => h.hand.uncounted) hunc)
    · rfl

structure Balanced (m : ℕ) (s : Pipeline σ Pt Fault n) : Prop where
  total : s.computePacketNum + s.outstanding = m
  nodup : s.uncomputed.Nodup
  lt : ∀ k ∈ s.uncomputed, k < m

lemma Balanced.congr {m : ℕ} (h : s.Balanced m) (hc : t.computePacketNum = s.computePacketNum)
    (hu : t.uncomputed = s.uncomputed) (hn : t.uncounted = s.uncounted) : t.Balanced m := by
  refine ⟨?_, by rw [hu]; exact h.nodup, by rw [hu]; exact h.lt⟩
  rw [outstanding, hu, hn, hc]
  exact h.total

def Account (s : Pipeline σ Pt Fault n) : Prop :=
  match s.pc with
  | .head | .wait _ => s.main.packetIndex < kMaxPacketNumPerFrame ∧ s.Balanced s.main.packetIndex
  | .push _ first => (first = true → s.main.packetIndex = 0) ∧
      s.main.packetIndex < kMaxPacketNumPerFrame ∧ s.Balanced s.main.packetIndex
  | .count _ first => (first = true → s.main.packetIndex = 0) ∧
      s.main.packetIndex < kMaxPacketNumPerFrame ∧ s.Balanced (s.main.packetIndex + 1)
  | .zero _ => s.outstanding = 0
  | .publish _ => s.Balanced 0
  | .reopen _ => s.main.packetIndex = 0 ∧ s.Balanced 0
  | .clearDecoded | .clearHandle _ | .update => s.outstanding ≤ kMaxPacketNumPerFrame

/-- The overflow reset leaves nothing behind: no index is counted, queued or in the hands of a thread
when the frame starts over. -/
def Clean (s : Pipeline σ Pt Fault n) : Action n → Prop
  | .main _ => s.pc = .update → s.computePacketNum = 0 ∧ s.outstanding = 0
  | _ => True

/-- A step that does not end an overflow reset. -/
def Unreset (s : Pipeline σ Pt Fault n) : Action n → Prop
  | .main _ => s.pc ≠ .update
  | _ => True

lemma Unreset.clean {a : Action n} (h : s.Unreset a) : s.Clean a := by
  cases a with
  | main fetch => exact fun hpc => absurd hpc h
  | parser => trivial
  | handle i => trivial

lemma balanced_zero : s.Balanced 0 ↔ s.computePacketNum = 0 ∧ s.outstanding = 0 := by
  constructor
  · intro h
    have := h.total
    omega
  · rintro ⟨hc, ho⟩
    have hu : s.uncomputed = 0 := Multiset.card_eq_zero.mp (Nat.eq_zero_of_add_eq_zero_right ho)
    refine ⟨by omega, ?_, ?_⟩
    · rw [hu]
      exact Multiset.nodup_zero
    · simp [hu]

section Worked

variable {m : ℕ}

lemma Worked.outstanding_le (h : Worked P s t) : t.outstanding ≤ s.outstanding := by
  rw [outstanding, outstanding]
  cases h with
  | moved _ hu hn _ => rw [hu, hn]
  | computed k _ hu hn _ =>
    rw [hu, hn, Multiset.card_cons]
    omega
  | added _ hu hn _ =>
    rw [hu, hn]
    omega

lemma Worked.balanced (h : Worked P s t) (hb : s.Balanced m) (hm : m < 2 ^ 32) : t.Balanced m := by
  obtain ⟨htotal, hnodup, hlt⟩ := hb
  rw [outstanding] at htotal
  cases h with
  | moved _ hu hn hc =>
    refine ⟨?_, by rwa [hu], by rwa [hu]⟩
    rw [outstanding, hu, hn, hc, htotal]
  | computed k _ hu hn hc =>
    rw [hu] at htotal hnodup hlt
    refine ⟨?_, (Multiset.nodup_cons.mp hnodup).2, fun j hj => hlt j (Multiset.mem_cons_of_mem hj)⟩
    rw [Multiset.card_cons] at htotal
    rw [outstanding, hn, hc]
    omega
  | added _ hu hn hc =>
    refine ⟨?_, by rwa [hu], by rwa [hu]⟩
    rw [outstanding, hu, hc, Nat.mod_eq_of_lt (by omega)]
    omega

lemma Worked.front_eq (h : Worked P s t) : t.pc = s.pc ∧ t.main.packetIndex = s.main.packetIndex ∧
    t.main.udpPacketFrame = s.main.udpPacketFrame ∧ t.sequential = s.sequential ∧ t.dropped = s.dropped ∧
    t.published = s.published := by
  cases h with
  | moved hf _ _ _ | added hf _ _ _ =>
    simp only [front, Prod.mk.injEq] at hf
    obtain ⟨hm, hpc, hs, -, hd, hp⟩ := hf
    exact ⟨hpc, by rw [hm], by rw [hm], hs, hd, hp⟩
  | computed k hf _ _ _ =>
    simp only [front, Prod.mk.injEq] at hf
    obtain ⟨hm, hpc, hs, -, hd, hp⟩ := hf
    exact ⟨hpc, by rw [hm]; rfl, by rw [hm]; rfl, hs, hd, hp⟩

lemma Worked.account (h : Worked P s t) (hs : s.Account) : t.Account := by
  obtain ⟨hpc, hi, -⟩ := h.front_eq
  have hmax : kMaxPacketNumPerFrame < 2 ^ 32 - 1 := by decide
  rw [Account, hpc, hi]
  rw [Account] at hs
  split at hs
  case h_3 | h_4 =>
    exact ⟨hs.1, hs.2.1, h.balanced hs.2.2 (by omega)⟩
  case h_5 =>
    exact Nat.le_zero.mp (hs ▸ h.outstanding_le)
  case h_6 =>
    exact h.balanced hs (by decide)
  case h_7 =>
    exact ⟨hs.1, h.balanced hs.2 (by decide)⟩
  case h_8 | h_9 | h_10 =>
    exact h.outstanding_le.trans hs
  all_goals exact ⟨hs.1, h.balanced hs.2 (by omega)⟩

end Worked

lemma Account.outstanding_le (h : s.Account) : s.outstanding ≤ kMaxPacketNumPerFrame := by
  rw [Account] at h
  split at h
  case h_5 => exact h.le.trans (Nat.zero_le _)
  case h_6 => exact (balanced_zero.mp h).2.le.trans (Nat.zero_le _)
  case h_7 => exact (balanced_zero.mp h.2).2.le.trans (Nat.zero_le _)
  case h_8 | h_9 | h_10 => exact h
  case h_3 | h_4 =>
    have := h.2.2.total
    omega
  all_goals
    have := h.2.total
    omega

section Main

variable {env : Environment} {device : DeviceFilter} {fetch : Fetch} {packet : UdpPacket}

lemma appended_account (hi : s.main.packetIndex ≤ kMaxPacketNumPerFrame) (hb : s.Balanced s.main.packetIndex) :
    s.appended.Account := by
  rw [Account, appended]
  split_ifs with hover
  · have := hb.total
    show s.outstanding ≤ kMaxPacketNumPerFrame
    omega
  · exact ⟨Nat.lt_of_not_le hover, hb.congr rfl rfl rfl⟩

lemma decodePacket_account (hpc : s.pc = .head) (hi : s.main.packetIndex < kMaxPacketNumPerFrame)
    (hb : s.Balanced s.main.packetIndex) : (s.decodePacket env P packet).Account := by
  have hb' {pc : RunPc} {main : RunState σ Pt Fault} :
      Balanced s.main.packetIndex { s with main := main, pc := pc } := hb.congr rfl rfl rfl
  rw [decodePacket]
  split_ifs
  · rw [Account]
    simp only [hpc]
    exact ⟨hi, hb'⟩
  · exact ⟨hi, hb'⟩
  · exact ⟨hi, hb'⟩
  · exact ⟨fun h => absurd h (by decide), hi, hb'⟩
  · exact appended_account hi.le hb'

lemma push_uncomputed {pc : RunPc} {sequential : ℕ → Pt} :
    uncomputed { s with
      decodedPacketsBuffer := s.decodedPacketsBuffer ++ [s.main.packetIndex]
      sequential := sequential
      pc := pc } = s.main.packetIndex ::ₘ s.uncomputed := by
  simp only [uncomputed, ← Multiset.coe_add, Multiset.coe_singleton]
  rw [add_comm (s.decodedPacketsBuffer : Multiset ℕ), add_assoc, add_assoc, Multiset.singleton_add, add_assoc]

lemma push_account (hb : s.Balanced s.main.packetIndex) {pc : RunPc} {sequential : ℕ → Pt} :
    Balanced (s.main.packetIndex + 1) { s with
      decodedPacketsBuffer := s.decodedPacketsBuffer ++ [s.main.packetIndex]
      sequential := sequential
      pc := pc } := by
  obtain ⟨htotal, hnodup, hlt⟩ := hb
  refine ⟨?_, ?_, ?_⟩
  · rw [outstanding, push_uncomputed, Multiset.card_cons]
    rw [outstanding] at htotal
    show s.computePacketNum + (s.uncomputed.card + 1 + s.uncounted) = s.main.packetIndex + 1
    omega
  · rw [push_uncomputed, Multiset.nodup_cons]
    exact ⟨fun h => absurd (hlt _ h) (Nat.lt_irrefl _), hnodup⟩
  · rw [push_uncomputed]
    intro k hk
    rcases Multiset.mem_cons.mp hk with rfl | hk
    · exact Nat.lt_succ_self _
    · exact Nat.lt_succ_of_lt (hlt k hk)

lemma clear_outstanding_le (ht : t.decodedPacketsBuffer.length ≤ s.decodedPacketsBuffer.length)
    (hp : t.parser = s.parser) (hh : ∀ i, (t.handles i).packetBuffer.length ≤ (s.handles i).packetBuffer.length)
    (hhand : ∀ i, (t.handles i).hand = (s.handles i).hand) : t.outstanding ≤ s.outstanding := by
  have hidx : ∑ i, (t.handles i).indices.card ≤ ∑ i, (s.handles i).indices.card := by
    apply Finset.sum_le_sum
    intro i _
    rw [Handle.indices, Handle.indices, hhand i, Multiset.card_add, Multiset.card_add, Multiset.coe_card,
      Multiset.coe_card]
    exact Nat.add_le_add_right (hh i) _
  have hunc : t.uncounted = s.uncounted := by
    rw [uncounted, uncounted, hp]
    exact congrArg _ (Finset.sum_congr rfl fun i _ => by rw [hhand i])
  rw [outstanding, outstanding, hunc, uncomputed, uncomputed, hp]
  simp only [Multiset.card_add, Multiset.coe_card, Multiset.card_sum]
  omega

lemma mainStep_account (hs : s.Account) (hc : s.Clean (.main fetch)) (h : s.mainStep env P device fetch = some t) :
    t.Account := by
  rw [mainStep] at h
  rw [Account] at hs
  cases hpc : s.pc with
  | head =>
    simp only [hpc] at h hs
    split at h
    · obtain rfl := Option.some.inj h
      rw [Account, hpc]
      exact hs
    · obtain rfl := Option.some.inj h
      rw [Account]
      simp only [RunState.parseFault_val]
      exact ⟨hs.1, hs.2.congr rfl rfl rfl⟩
    · obtain rfl := Option.some.inj h
      exact decodePacket_account hpc hs.1 hs.2
  | push packet first =>
    simp only [hpc] at h hs
    split_ifs at h
    obtain rfl := Option.some.inj h
    exact ⟨hs.1, hs.2.1, push_account hs.2.2⟩
  | count packet first =>
    simp only [hpc, Option.some.injEq] at h hs
    subst h
    split_ifs with hfirst
    · refine ⟨?_, hs.2.2.congr rfl rfl rfl⟩
      show s.main.packetIndex + 1 < kMaxPacketNumPerFrame
      rw [hs.1 hfirst]
      decide
    · exact appended_account hs.2.1 (hs.2.2.congr rfl rfl rfl)
  | wait again =>
    simp only [hpc, Option.some.injEq] at h hs
    split_ifs at h with heq
    · subst h
      have := hs.2.total
      show s.outstanding = 0
      omega
    · subst h
      rw [Account, hpc]
      exact hs
  | zero again =>
    simp only [hpc, Option.some.injEq] at h hs
    subst h
    exact balanced_zero.mpr ⟨rfl, hs⟩
  | publish again =>
    simp only [hpc, Option.some.injEq] at h hs
    subst h
    have hb : Balanced 0 (s.publishFrame again) := by
      rw [publishFrame]
      split_ifs
      · exact hs.congr rfl rfl rfl
      · exact hs
    cases again with
    | none => exact ⟨show 0 < kMaxPacketNumPerFrame by decide, hb.congr rfl rfl rfl⟩
    | some packet => exact ⟨rfl, hb.congr rfl rfl rfl⟩
  | reopen packet =>
    simp only [hpc, Option.some.injEq] at h hs
    subst h
    have hi : (s.main.decode env P packet).val.2.packetIndex = 0 := hs.1
    rw [Account]
    simp only [hi]
    exact ⟨fun _ => trivial, by decide, hs.2.congr rfl rfl rfl⟩
  | clearDecoded =>
    simp only [hpc, Option.some.injEq] at h hs
    subst h
    have hle : outstanding { s with
        decodedPacketsBuffer := []
        pc := if 1 < n then .clearHandle 0 else .update } ≤ s.outstanding :=
      clear_outstanding_le (Nat.zero_le _) rfl (fun _ => le_rfl) fun _ => rfl
    rw [Account]
    split_ifs <;> exact hle.trans hs
  | clearHandle i =>
    simp only [hpc, Option.some.injEq] at h hs
    subst h
    have hle : outstanding { s with
        handles := fun j => if j.val = i then { s.handles j with packetBuffer := [] } else s.handles j
        pc := if i + 1 < n then .clearHandle (i + 1) else .update } ≤ s.outstanding := by
      refine clear_outstanding_le le_rfl rfl (fun j => ?_) fun j => ?_
      · dsimp only
        split_ifs
        · exact Nat.zero_le _
        · exact le_rfl
      · dsimp only
        split_ifs <;> rfl
    rw [Account]
    split_ifs <;> exact hle.trans hs
  | update =>
    simp only [hpc, Option.some.injEq] at h hs
    subst h
    have hb := balanced_zero.mpr (hc hpc)
    exact ⟨show 0 < kMaxPacketNumPerFrame by decide, hb.congr rfl rfl rfl⟩

end Main

section Runs

variable {env : Environment} {device : DeviceFilter} {a : Action n}

def IsWorker : Action n → Prop
  | .main _ => False
  | _ => True

lemma IsWorker.unreset (ha : IsWorker a) : s.Unreset a := by
  cases a with
  | main fetch => exact ha.elim
  | parser => trivial
  | handle i => trivial

lemma step_worked (ha : IsWorker a) (hcard : s.uncomputed.card ≤ kPacketBufferSize)
    (h : s.step env P device a = some t) : Worked P s t := by
  cases a with
  | main fetch => exact ha.elim
  | parser => exact parserStep_worked h hcard
  | handle i => exact handleStep_worked h

lemma Account.card_le (h : s.Account) : s.uncomputed.card ≤ kPacketBufferSize := by
  have hle := h.outstanding_le
  have hmax : kMaxPacketNumPerFrame ≤ kPacketBufferSize := by decide
  rw [outstanding] at hle
  omega

lemma step_account (hs : s.Account) (hc : s.Clean a) (h : s.step env P device a = some t) : t.Account := by
  cases a with
  | main fetch => exact mainStep_account hs hc h
  | parser => exact (parserStep_worked h hs.card_le).account hs
  | handle i => exact (handleStep_worked h).account hs

lemma start_account {main : RunState σ Pt Fault} (h : main.packetIndex = 0) :
    (start main 0 : Pipeline σ Pt Fault n).Account := by
  have hb : (start main 0 : Pipeline σ Pt Fault n).Balanced 0 := by
    rw [balanced_zero]
    exact ⟨rfl, by simp [outstanding, uncomputed, uncounted, start, Handle.indices, Hand.indices, Hand.uncounted]⟩
  refine ⟨?_, ?_⟩
  · show main.packetIndex < kMaxPacketNumPerFrame
    rw [h]
    decide
  · show (start main 0 : Pipeline σ Pt Fault n).Balanced main.packetIndex
    rwa [h]

def work (s : Pipeline σ Pt Fault n) : ℕ :=
  5 * s.decodedPacketsBuffer.length + s.parser.parserWork + ∑ i, (s.handles i).work

lemma dispatch_work_lt {k : ℕ} (i : Fin n) (hp : s.parser = .popped k) : (s.dispatch k i).work < s.work := by
  let pushed := (s.handles i).packetBuffer ++ [k]
  let h : Handle := { s.handles i with
    packetBuffer := if kPacketBufferSize < pushed.length then pushed.tail else pushed }
  have hlen : h.packetBuffer.length ≤ (s.handles i).packetBuffer.length + 1 := by
    have hpushed : pushed.length = (s.handles i).packetBuffer.length + 1 := by
      rw [List.length_append, List.length_singleton]
    show (if kPacketBufferSize < pushed.length then pushed.tail else pushed).length ≤ _
    split_ifs
    · rw [List.length_tail]
      omega
    · exact hpushed.le
  have hwork : h.work ≤ (s.handles i).work + 3 := by
    rw [Handle.work, Handle.work]
    show 3 * h.packetBuffer.length + (s.handles i).hand.work ≤ _
    omega
  have hsum := sum_update Handle.work s.handles i h
  show 5 * s.decodedPacketsBuffer.length + 0 + ∑ j, (Function.update s.handles i h j).work < s.work
  rw [work, hp, Hand.parserWork]
  omega

lemma handle_work_lt (i : Fin n) {h : Handle} (hh : h.work < (s.handles i).work)
    (ht : t.handles = Function.update s.handles i h)
    (hd : t.decodedPacketsBuffer = s.decodedPacketsBuffer) (hp : t.parser = s.parser) : t.work < s.work := by
  have hsum := sum_update Handle.work s.handles i h
  rw [work, work, ht, hd, hp]
  omega

lemma work_lt (ha : IsWorker a) (h : s.step env P device a = some t) : t.work < s.work := by
  cases a with
  | main fetch => exact ha.elim
  | parser =>
    rw [step, parserStep] at h
    cases hp : s.parser with
    | idle =>
      cases hd : s.decodedPacketsBuffer with
      | nil => simp [hp, hd] at h
      | cons k rest =>
        simp only [hp, hd, Option.some.injEq] at h
        subst h
        simp only [work, hp, hd, List.length_cons, Hand.parserWork]
        omega
    | popped k =>
      simp only [hp] at h
      split_ifs at h with hn hi
      · obtain rfl := Option.some.inj h
        simp only [work, compute, hp, Hand.parserWork]
        omega
      · obtain rfl := Option.some.inj h
        exact dispatch_work_lt _ hp
    | computed =>
      simp only [hp, Option.some.injEq] at h
      subst h
      simp only [work, frameNumAdd, hp, Hand.parserWork]
      omega
  | handle i =>
    rw [step, handleStep] at h
    cases hh : (s.handles i).hand with
    | idle =>
      cases hb : (s.handles i).packetBuffer with
      | nil => simp [hh, hb] at h
      | cons k rest =>
        simp only [hh, hb, Option.some.injEq] at h
        subst h
        refine handle_work_lt i (h := ⟨rest, .popped k⟩) ?_ rfl rfl rfl
        simp only [Handle.work, hh, hb, List.length_cons, Hand.work]
        omega
    | popped k =>
      simp only [hh, Option.some.injEq] at h
      subst h
      refine handle_work_lt (s := s) i (h := ⟨(s.handles i).packetBuffer, .computed⟩) ?_ rfl rfl rfl
      simp only [Handle.work, hh, Hand.work]
      omega
    | computed =>
      simp only [hh, Option.some.injEq] at h
      subst h
      refine handle_work_lt (s := s) i (h := ⟨(s.handles i).packetBuffer, .idle⟩) ?_ rfl rfl rfl
      simp only [Handle.work, hh, Hand.work]
      omega

lemma exists_worker (ho : s.outstanding ≠ 0) :
    ∃ a, IsWorker a ∧ (s.step env P device a).isSome := by
  have hhandle (i : Fin n) (hi : (s.handles i).hand ≠ .idle ∨ (s.handles i).packetBuffer ≠ []) :
      ∃ a, IsWorker a ∧ (s.step env P device a).isSome := by
    refine ⟨.handle i, trivial, ?_⟩
    rw [step, handleStep]
    cases hh : (s.handles i).hand with
    | idle =>
      cases hb : (s.handles i).packetBuffer with
      | nil => simp [hh, hb] at hi
      | cons k rest => rfl
    | popped k => rfl
    | computed => rfl
  cases hp : s.parser with
  | idle =>
    cases hd : s.decodedPacketsBuffer with
    | nil =>
      by_contra hnone
      have hidle (i : Fin n) : s.handles i = ⟨[], .idle⟩ := by
        by_contra hi
        apply hnone
        apply hhandle i
        by_contra hboth
        obtain ⟨hh, hb⟩ := not_or.mp hboth
        apply hi
        rw [← not_not.mp hh, ← not_not.mp hb]
      apply ho
      simp [outstanding, uncomputed, uncounted, hp, hd, hidle, Handle.indices, Hand.indices, Hand.uncounted]
    | cons k rest =>
      refine ⟨.parser, trivial, ?_⟩
      simp [step, parserStep, hp, hd]
  | popped k =>
    by_cases hn : n < 2
    · refine ⟨.parser, trivial, ?_⟩
      simp [step, parserStep, hp, hn]
    · let i : Fin n := ⟨s.nUDPCount % n, Nat.mod_lt _ (by omega)⟩
      by_cases hi : (s.handles i).hand = .idle
      · refine ⟨.parser, trivial, ?_⟩
        simp only [step, parserStep, hp, dif_neg hn]
        rw [if_pos hi]
        rfl
      · exact hhandle i (Or.inl hi)
  | computed =>
    refine ⟨.parser, trivial, ?_⟩
    simp [step, parserStep, hp]

/-- In every run without leftovers, `Run` waits for exactly the indices that are counted or
outstanding: the worker threads drain them in at most `work` steps, of which some is always enabled,
and then the test succeeds. -/
theorem wait_completes (env : Environment) (P : Parser σ Pt Fault) (device : DeviceFilter)
    (main : RunState σ Pt Fault) (hmain : main.packetIndex = 0) (s : Pipeline σ Pt Fault n)
    (hs : Reaches (step env P device) Clean (start main 0) s) (again : Option UdpPacket)
    (hpc : s.pc = .wait again) :
    s.computePacketNum + s.outstanding = s.main.packetIndex ∧
    (s.outstanding = 0 → ∀ fetch, ∃ t, s.step env P device (.main fetch) = some t ∧ t.pc = .zero again) ∧
    (s.outstanding ≠ 0 → ∃ a, IsWorker a ∧ (s.step env P device a).isSome) ∧
    ∀ (as : List (Action n)) (t : Pipeline σ Pt Fault n), (∀ a ∈ as, IsWorker a) →
      exec (step env P device) as s = some t →
      as.length ≤ s.work ∧ t.pc = .wait again ∧ t.main.packetIndex = s.main.packetIndex ∧
        t.computePacketNum + t.outstanding = s.main.packetIndex := by
  have hacc : s.Account := reaches_invariant (fun _ _ _ hc hs h => step_account hs hc h) hs (start_account hmain)
  have hwait (t : Pipeline σ Pt Fault n) (ht : t.Account) (hpc : t.pc = .wait again) :
      t.computePacketNum + t.outstanding = t.main.packetIndex := by
    rw [Account, hpc] at ht
    exact ht.2.total
  have htotal := hwait s hacc hpc
  refine ⟨htotal, fun ho fetch => ?_, exists_worker, fun as t ha ht => ?_⟩
  · refine ⟨{ s with pc := .zero again }, ?_, rfl⟩
    simp only [step, mainStep, hpc]
    rw [if_pos (by omega)]
  · have hP (s' : Pipeline σ Pt Fault n) (a : Action n) (t' : Pipeline σ Pt Fault n) (ha : IsWorker a)
        (h : s'.Account ∧ s'.pc = .wait again ∧ s'.main.packetIndex = s.main.packetIndex)
        (hstep : s'.step env P device a = some t') :
        (t'.Account ∧ t'.pc = .wait again ∧ t'.main.packetIndex = s.main.packetIndex) ∧ t'.work < s'.work := by
      have hw := step_worked ha h.1.card_le hstep
      obtain ⟨hpc', hi', -⟩ := hw.front_eq
      exact ⟨⟨hw.account h.1, hpc'.trans h.2.1, hi'.trans h.2.2⟩, work_lt ha hstep⟩
    obtain ⟨⟨hacc', hpc', hi'⟩, hlen⟩ := length_le_of_decreasing hP ha ⟨hacc, hpc, rfl⟩ ht
    exact ⟨by omega, hpc', hi', hi' ▸ hwait t hacc' hpc'⟩

end Runs

section Leftover

/-- Six blocks of 60 lasers, so that three packets are enough for a frame to be published. -/
abbrev xtPacket (azimuth : UInt8) : UdpPacket := RunState.xtPacketOf 6 60 azimuth

def xtAzimuth (azimuth : UInt8) : UInt16 :=
  Udp61Parser.splitAzimuth default (xtPacket azimuth) (V61.headerAt default (xtPacket azimuth))

def powered (lastAzimuth : ℤ) : Pipeline GeneralParser LidarPointXYZICRT Unit 0 :=
  start (RunState.start (RunState.xtParser lastAzimuth) default ()) 0

abbrev stepXt : Pipeline GeneralParser LidarPointXYZICRT Unit 0 → Action 0 →
    Option (Pipeline GeneralParser LidarPointXYZICRT Unit 0) :=
  step default (udp61Storing default LidarPointXYZICRT Unit).toParser ⟨0, 0, 0⟩

def fetchXt (azimuth : UInt8) : Action 0 := .main (RunState.xtFetch (xtPacket azimuth))

structure Standing (pc : RunPc) (state : ℚ × ℤ × ℤ) (packets : List UdpPacket) (queue : List ℕ) (counter : ℕ)
    (s : Pipeline GeneralParser LidarPointXYZICRT Unit 0) : Prop where
  parser : ∃ p, s.main.udpParser.parser = some p ∧ Udp61Parser.Turned state p
  pc : s.pc = pc
  udpPacketFrame : s.main.udpPacketFrame = packets
  packetIndex : s.main.packetIndex = packets.length
  packetNum : s.main.frame.packetNum = packets.length
  pointsNum : s.main.frame.pointsNum = packets.length * 360
  decodedPacketsBuffer : s.decodedPacketsBuffer = queue
  computePacketNum : s.computePacketNum = counter
  hand : s.parser = .idle
  published : s.published = []

variable {pc : RunPc} {state : ℚ × ℤ × ℤ} {packets : List UdpPacket} {queue : List ℕ} {counter : ℕ}
  {azimuth : UInt8} {s : Pipeline GeneralParser LidarPointXYZICRT Unit 0}

lemma powered_standing (lastAzimuth : ℤ) : Standing .head (1, 0, lastAzimuth) [] [] 0 (powered lastAzimuth) :=
  ⟨⟨_, rfl, rfl, rfl⟩, rfl, rfl, rfl, rfl, rfl, rfl, rfl, rfl, rfl⟩

lemma Standing.unreset (h : Standing pc state packets queue counter s) (hpc : pc ≠ .update) (azimuth : UInt8) :
    s.Unreset (fetchXt azimuth) := by
  rw [← h.pc] at hpc
  exact hpc

lemma Standing.decode (azimuth : UInt8) (h : Standing pc state packets queue counter s)
    (h0 : 0 ≤ state.1) (h360 : state.1 < 360) :
    let d := (s.main.decode default (udp61Storing default LidarPointXYZICRT Unit).toParser (xtPacket azimuth)).val
    (d.1 = 0 ∧ d.2.frame.packetNum = packets.length + 1 ∧
      d.2.frame.scanComplete = Udp61Parser.splits state (xtAzimuth azimuth)) ∧
    (d.2.frame.pointsNum = packets.length * 360 ∧ d.2.frame.perPointsNum = 360) ∧
    ∃ p, d.2.udpParser.parser = some p ∧ Udp61Parser.Turned (Udp61Parser.turn state (xtAzimuth azimuth)) p := by
  obtain ⟨p, hp, ht⟩ := h.parser
  have hlen : ¬(xtPacket azimuth).packetLen < 6 := by
    show ¬(1500 : ℤ) < 6
    decide
  obtain ⟨hret, hframe, hparser⟩ := RunState.decode_of_some default
    (udp61Storing default LidarPointXYZICRT Unit).toParser hp hlen
  obtain ⟨hzero, hnum, hscan, hturn⟩ := Udp61Parser.decodePacket_turn s.main.frame ht h0 h360
    (show Delimited default (xtPacket azimuth) from ⟨rfl, rfl⟩)
  have hnum' : (s.main.decode default (udp61Storing default LidarPointXYZICRT Unit).toParser
      (xtPacket azimuth)).val.2.frame.packetNum = s.main.frame.packetNum + 1 :=
    (congrArg LidarDecodedFrame.packetNum hframe).trans hnum
  have hsome : s.main.udpParser.parser.isSome := by
    rw [hp]
    rfl
  let F := (udp61Storing default LidarPointXYZICRT Unit).capacity
  have hper := RunState.decode_perPointsNum (F := F) hsome trivial hnum'
  have hpoints : (s.main.decode default F.toParser (xtPacket azimuth)).val.2.frame.pointsNum = s.main.frame.pointsNum :=
    RunState.decode_pointsNum default s.main trivial
  exact ⟨⟨hret.trans hzero, hnum'.trans (congrArg (· + 1) h.packetNum),
    (congrArg LidarDecodedFrame.scanComplete hframe).trans hscan⟩,
    ⟨hpoints.trans h.pointsNum, hper.trans (show 6 * 60 = 360 from rfl)⟩, _, hparser, hturn⟩

lemma Standing.store (azimuth : UInt8) (h : Standing .head state packets queue counter s) (h0 : 0 ≤ state.1)
    (h360 : state.1 < 360) (hsplit : Udp61Parser.splits state (xtAzimuth azimuth) = false)
    (hq : queue.length < kPacketBufferSize) :
    ∃ t, Reaches stepXt Unreset s t ∧
      Standing (if kMaxPacketNumPerFrame ≤ packets.length + 1 then .clearDecoded else .head)
        (Udp61Parser.turn state (xtAzimuth azimuth)) (packets ++ [xtPacket azimuth]) (queue ++ [packets.length])
        counter t ∧ t.writes = s.writes := by
  obtain ⟨⟨hzero, hnum, hscan⟩, ⟨hpoints, hper⟩, hparser⟩ := h.decode azimuth h0 h360
  let main := (s.main.decode default (udp61Storing default LidarPointXYZICRT Unit).toParser (xtPacket azimuth)).val.2
  let decoded := { s with main := main, pc := .push (xtPacket azimuth) false }
  let pushed : Pipeline GeneralParser LidarPointXYZICRT Unit 0 := { decoded with
    decodedPacketsBuffer := s.decodedPacketsBuffer ++ [main.packetIndex]
    sequential := (main.udpParser.computeXYZI (udp61Storing default LidarPointXYZICRT Unit).toParser
      { main.frame with points := s.sequential } main.packetIndex).val
    pc := .count (xtPacket azimuth) false }
  let counted : Pipeline GeneralParser LidarPointXYZICRT Unit 0 :=
    appended { pushed with main := main.count (xtPacket azimuth) }
  have hindex : main.packetIndex = packets.length := h.packetIndex
  have hdecoded : stepXt s (fetchXt azimuth) = some decoded := by
    have hne : main.frame.packetNum ≠ main.packetIndex := by
      rw [hindex]
      exact hnum ▸ Nat.succ_ne_self _
    simp only [stepXt, fetchXt, step, mainStep, h.pc]
    exact congrArg some (decodePacket_of_stored hzero (hscan.trans hsplit) hne)
  have hpushed : stepXt decoded (fetchXt azimuth) = some pushed := by
    have hroom : decoded.decodedPacketsBuffer.length < kPacketBufferSize := by
      show s.decodedPacketsBuffer.length < _
      rwa [h.decodedPacketsBuffer]
    exact if_pos hroom
  have hcounted : stepXt pushed (fetchXt azimuth) = some counted := rfl
  have hhead := h.unreset RunPc.noConfusion azimuth
  have hpush : decoded.Unreset (fetchXt azimuth) := RunPc.noConfusion
  have hcount : pushed.Unreset (fetchXt azimuth) := RunPc.noConfusion
  refine ⟨counted, ((Relation.ReflTransGen.single ⟨_, hhead, hdecoded⟩).tail ⟨_, hpush, hpushed⟩).tail
    ⟨_, hcount, hcounted⟩, ⟨hparser, ?_, ?_, ?_, ?_, ?_, ?_, h.computePacketNum, h.hand, h.published⟩, rfl⟩
  · show (if kMaxPacketNumPerFrame ≤ main.packetIndex + 1 then RunPc.clearDecoded else .head) = _
    rw [hindex]
  · exact congrArg (· ++ _) h.udpPacketFrame
  · rw [List.length_append]
    exact congrArg (· + 1) hindex
  · rw [List.length_append]
    exact hnum
  · rw [List.length_append, List.length_singleton, Nat.succ_mul]
    exact congrArg₂ (· + ·) hpoints hper
  · show s.decodedPacketsBuffer ++ [main.packetIndex] = _
    rw [h.decodedPacketsBuffer, hindex]

/-- The parser thread takes an index, computes its points and counts it. -/
lemma Standing.work {k : ℕ} (h : Standing pc state packets (k :: queue) counter s)
    (hc : counter + 1 < 2 ^ 32) :
    ∃ t, exec stepXt (List.replicate 3 .parser) s = some t ∧ Standing pc state packets queue (counter + 1) t := by
  let taken := { s with decodedPacketsBuffer := queue, parser := .popped k }
  let computed : Pipeline GeneralParser LidarPointXYZICRT Unit 0 :=
    { taken.compute (udp61Storing default LidarPointXYZICRT Unit).toParser k with parser := .computed }
  let added : Pipeline GeneralParser LidarPointXYZICRT Unit 0 := { computed.frameNumAdd with parser := .idle }
  have htaken : stepXt s .parser = some taken := by
    simp only [stepXt, step, parserStep, h.hand, h.decodedPacketsBuffer]
    rfl
  have hexec : exec stepXt (List.replicate 3 .parser) s = some added := by
    rw [List.replicate_succ, exec, htaken]
    rfl
  refine ⟨added, hexec, h.parser, h.pc, h.udpPacketFrame, h.packetIndex, h.packetNum, h.pointsNum, rfl,
    ?_, rfl, h.published⟩
  show (s.computePacketNum + 1) % 2 ^ 32 = _
  rw [h.computePacketNum, Nat.mod_eq_of_lt hc]

lemma isWorker_replicate {n : ℕ} (m : ℕ) : ∀ a ∈ List.replicate m (.parser : Action n), IsWorker a := by
  intro a ha
  rw [List.eq_of_mem_replicate ha]
  trivial

lemma reaches_of_work {m : ℕ} {s t : Pipeline GeneralParser LidarPointXYZICRT Unit 0}
    (h : exec stepXt (List.replicate m .parser) s = some t) : Reaches stepXt Unreset s t :=
  reaches_imp (fun _ _ ha => ha.unreset) (reaches_of_exec_forall (isWorker_replicate m) h)

lemma Standing.overflow (h : Standing .clearDecoded state packets queue counter s) :
    ∃ t, Reaches stepXt (fun _ _ => True) s t ∧ Standing .head state [] [] counter t ∧
      t.writes = fun _ => 0 := by
  let cleared := { s with decodedPacketsBuffer := [], pc := .update }
  have hcleared : stepXt s (fetchXt 0) = some cleared := by
    simp only [stepXt, fetchXt, step, mainStep, h.pc]
    rfl
  have hrestart : stepXt cleared (fetchXt 0) = some (cleared.restart .head) := rfl
  exact ⟨cleared.restart .head, (Relation.ReflTransGen.single ⟨_, trivial, hcleared⟩).tail
    ⟨_, trivial, hrestart⟩, ⟨h.parser, rfl, rfl, rfl, rfl, rfl, rfl, h.computePacketNum, h.hand, h.published⟩, rfl⟩

lemma Standing.split (azimuth : UInt8) (h : Standing .head state packets queue counter s) (h0 : 0 ≤ state.1)
    (h360 : state.1 < 360) (hsplit : Udp61Parser.splits state (xtAzimuth azimuth) = true) :
    ∃ t, stepXt s (fetchXt azimuth) = some t ∧
      Standing (.wait (some (xtPacket azimuth))) (Udp61Parser.turn state (xtAzimuth azimuth)) packets queue
        counter t ∧ t.writes = s.writes := by
  obtain ⟨⟨hzero, hnum, hscan⟩, ⟨hpoints, -⟩, hparser⟩ := h.decode azimuth h0 h360
  let main := (s.main.decode default (udp61Storing default LidarPointXYZICRT Unit).toParser (xtPacket azimuth)).val.2
  let ended := { s with main := main.endFrame, pc := .wait (some (xtPacket azimuth)) }
  have hindex : main.packetIndex = packets.length := h.packetIndex
  have hended : stepXt s (fetchXt azimuth) = some ended := by
    have hne : main.frame.packetNum ≠ main.packetIndex := by
      rw [hindex]
      exact hnum ▸ Nat.succ_ne_self _
    simp only [stepXt, fetchXt, step, mainStep, h.pc]
    have hd := decodePacket_of_scanComplete (s := s) hzero (hscan.trans hsplit)
    rw [if_pos hne] at hd
    exact congrArg some hd
  exact ⟨ended, hended, ⟨hparser, rfl, h.udpPacketFrame, hindex, hindex,
    hpoints, h.decodedPacketsBuffer, h.computePacketNum, h.hand, h.published⟩, rfl⟩

lemma Standing.storeMany {m : ℕ} (h : Standing .head (1, 0, 0) packets queue counter s)
    (hm : packets.length + m < kMaxPacketNumPerFrame) (hq : queue.length + m ≤ kPacketBufferSize) :
    ∃ t packets' queue', Reaches stepXt Unreset s t ∧ Standing .head (1, 0, 0) packets' queue' counter t ∧
      packets'.length = packets.length + m ∧ queue'.length = queue.length + m := by
  induction m with
  | zero => exact ⟨s, packets, queue, Relation.ReflTransGen.refl, h, rfl, rfl⟩
  | succ m ih =>
    obtain ⟨t, packets', queue', ht, hs, hp, hl⟩ := ih (by omega) (by omega)
    obtain ⟨u, hu, hs', -⟩ := hs.store 0 (by decide +kernel) (by decide +kernel) (by decide +kernel) (by omega)
    rw [if_neg (by omega), show Udp61Parser.turn (1, 0, 0) (xtAzimuth 0) = (1, 0, 0) by decide +kernel] at hs'
    refine ⟨u, _, _, ht.trans hu, hs', ?_, ?_⟩
    · rw [List.length_append, hp]
      rfl
    · rw [List.length_append, hl]
      rfl

lemma Standing.storeOne (azimuth : UInt8) (h : Standing .head state packets [] counter s) (h0 : 0 ≤ state.1)
    (h360 : state.1 < 360) (hsplit : Udp61Parser.splits state (xtAzimuth azimuth) = false)
    (hm : packets.length + 1 < kMaxPacketNumPerFrame) (hc : counter + 1 < 2 ^ 32) :
    ∃ t, Reaches stepXt Unreset s t ∧ Standing .head (Udp61Parser.turn state (xtAzimuth azimuth))
      (packets ++ [xtPacket azimuth]) [] (counter + 1) t := by
  obtain ⟨t, ht, hs, -⟩ := h.store azimuth h0 h360 hsplit (by decide)
  rw [if_neg (by omega)] at hs
  obtain ⟨u, hu, hs'⟩ := hs.work hc
  exact ⟨u, ht.trans (reaches_of_work hu), hs'⟩

/-- An XT that stands still overflows the frame; three of its packets are counted before. -/
lemma exists_leftover : ∃ s, Reaches stepXt (fun _ _ => True) (powered 0) s ∧
    Standing .head (1, 0, 0) [] [] 3 s ∧ s.writes = fun _ => 0 := by
  have h0 : (0 : ℚ) ≤ 1 := by decide +kernel
  have h360 : (1 : ℚ) < 360 := by decide +kernel
  have hsplit : Udp61Parser.splits (1, 0, 0) (xtAzimuth 0) = false := by decide +kernel
  have hturn : Udp61Parser.turn (1, 0, 0) (xtAzimuth 0) = (1, 0, 0) := by decide +kernel
  obtain ⟨s₁, hr₁, hs₁⟩ := (powered_standing 0).storeOne 0 h0 h360 hsplit (by decide) (by decide)
  rw [hturn] at hs₁
  obtain ⟨s₂, hr₂, hs₂⟩ := hs₁.storeOne 0 h0 h360 hsplit (by decide) (by decide)
  rw [hturn] at hs₂
  obtain ⟨s₃, hr₃, hs₃⟩ := hs₂.storeOne 0 h0 h360 hsplit (by decide) (by decide)
  rw [hturn] at hs₃
  obtain ⟨s₄, packets, queue, hr₄, hs₄, hp, hq⟩ := Standing.storeMany (m := 4996) hs₃ (by decide) (by decide)
  obtain ⟨s₅, hr₅, hs₅, -⟩ := hs₄.store 0 h0 h360 hsplit (by rw [hq]; decide)
  rw [hp, if_pos (by decide)] at hs₅
  rw [hturn] at hs₅
  obtain ⟨s₆, hr₆, hs₆, hw⟩ := hs₅.overflow
  have hfull : Reaches stepXt Unreset (powered 0) s₅ := (((hr₁.trans hr₂).trans hr₃).trans hr₄).trans hr₅
  exact ⟨s₆, (reaches_imp (fun _ _ _ => trivial) hfull).trans hr₆, hs₆, hw⟩

lemma Standing.outstanding_eq (h : Standing pc state packets queue counter s) : s.outstanding = queue.length := by
  simp [outstanding, uncomputed, uncounted, h.hand, h.decodedPacketsBuffer, Hand.indices, Hand.uncounted]

/-- Three packets, of which one is computed before the fourth ends the frame. -/
lemma exists_waiting : ∃ s, Reaches stepXt Unreset (powered 0) s ∧ ∃ state,
    Standing (.wait (some (xtPacket 150))) state [xtPacket 50, xtPacket 60, xtPacket 70] [1, 2] 1 s := by
  obtain ⟨s₁, hr₁, hs₁⟩ := (powered_standing 0).storeOne 50 (by decide +kernel) (by decide +kernel)
    (by decide +kernel) (by decide) (by decide)
  obtain ⟨s₂, hr₂, hs₂, -⟩ := hs₁.store 60 (by decide +kernel) (by decide +kernel) (by decide +kernel) (by decide)
  rw [if_neg (by decide)] at hs₂
  obtain ⟨s₃, hr₃, hs₃, -⟩ := hs₂.store 70 (by decide +kernel) (by decide +kernel) (by decide +kernel) (by decide)
  rw [if_neg (by decide)] at hs₃
  obtain ⟨s₄, hr₄, hs₄, -⟩ := hs₃.split 150 (by decide +kernel) (by decide +kernel) (by decide +kernel)
  exact ⟨s₄, ((hr₁.trans hr₂).trans hr₃).tail ⟨_, hs₃.unreset RunPc.noConfusion 150, hr₄⟩, _, hs₄⟩

theorem wait_completes_xt : ∃ s t u, Reaches stepXt Clean (powered 0) s ∧ s.pc = .wait (some (xtPacket 150)) ∧
    (s.computePacketNum = 1 ∧ s.outstanding = 2 ∧ s.computePacketNum + s.outstanding = s.main.packetIndex) ∧
    (∃ a, IsWorker a ∧ (stepXt s a).isSome) ∧ exec stepXt (List.replicate 6 .parser) s = some t ∧
    (t.computePacketNum = 3 ∧ t.outstanding = 0 ∧ t.computePacketNum + t.outstanding = s.main.packetIndex) ∧
    stepXt t (fetchXt 0) = some u ∧ u.pc = .zero (some (xtPacket 150)) := by
  obtain ⟨s, hunreset, state, hs⟩ := exists_waiting
  have hr : Reaches stepXt Clean (powered 0) s := reaches_imp (fun _ _ ha => ha.clean) hunreset
  obtain ⟨s₁, hr₁, hs₁⟩ := hs.work (by decide)
  obtain ⟨t, hr₂, ht⟩ := hs₁.work (by decide)
  have hexec : exec stepXt (List.replicate 3 .parser ++ List.replicate 3 .parser) s = some t := by
    rw [exec_append, hr₁]
    exact hr₂
  have hdrained : Reaches stepXt Clean (powered 0) t := hr.trans
    (reaches_imp (fun _ _ ha => ha.clean) ((reaches_of_work hr₁).trans (reaches_of_work hr₂)))
  obtain ⟨htotal, -, henabled, hruns⟩ := wait_completes default _ ⟨0, 0, 0⟩ _ rfl s hr _ hs.pc
  obtain ⟨-, hend, -⟩ := wait_completes default _ ⟨0, 0, 0⟩ _ rfl t hdrained _ ht.pc
  obtain ⟨u, hu, hzero⟩ := hend ht.outstanding_eq ⟨some (xtPacket 0), true⟩
  refine ⟨s, t, u, hr, hs.pc, ⟨hs.computePacketNum, hs.outstanding_eq, htotal⟩, henabled ?_, hexec,
    ⟨ht.computePacketNum, ht.outstanding_eq, (hruns _ t (isWorker_replicate 6) hexec).2.2.2⟩, hu, hzero⟩
  rw [hs.outstanding_eq]
  decide

/-- After such a reset `Run` waits for one packet while four are counted, and nothing is left to do. -/
theorem wait_stuck : ∃ s, Reaches stepXt (fun _ _ => True) (powered 0) s ∧ s.pc = .wait (some (xtPacket 150)) ∧
    s.outstanding = 0 ∧ s.computePacketNum + s.outstanding ≠ s.main.packetIndex ∧
    ∀ a t, stepXt s a = some t → t = s := by
  obtain ⟨s, hr, hs, -⟩ := exists_leftover
  obtain ⟨t, ht, hs₁⟩ := hs.storeOne 50 (by decide +kernel) (by decide +kernel) (by decide +kernel) (by decide)
    (by decide)
  obtain ⟨u, hu, hs₂, -⟩ := hs₁.split 150 (by decide +kernel) (by decide +kernel) (by decide +kernel)
  have hne : u.computePacketNum ≠ u.main.packetIndex := by
    rw [hs₂.computePacketNum, hs₂.packetIndex]
    decide
  refine ⟨u, (hr.trans (reaches_imp (fun _ _ _ => trivial) ht)).tail ⟨_, trivial, hu⟩, hs₂.pc, hs₂.outstanding_eq, ?_,
    fun a v hv => ?_⟩
  · rw [hs₂.outstanding_eq]
    exact hne
  · cases a with
    | main fetch =>
      simp only [stepXt, step, mainStep, hs₂.pc, if_neg hne, Option.some.injEq] at hv
      exact hv.symm
    | parser => simp [stepXt, step, parserStep, hs₂.hand, hs₂.decodedPacketsBuffer] at hv
    | handle i => exact i.elim0

end Leftover

end Pipeline

end HesaiSdk.Driver
