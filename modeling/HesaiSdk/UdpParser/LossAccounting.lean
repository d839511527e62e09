import HesaiSdk.Library.Transition
import HesaiSdk.UdpParser.GeneralParser

/-! The packet loss tool over sequences of sequence numbers. -/

namespace HesaiSdk.Parsing

open Library.Transition UdpProtocol

namespace GeneralParser

variable (env : Environment) {p : GeneralParser} {first n s t : UInt32} {k : ℕ}

section Step

lemma calPktLoss_disabled (h : p.enablePacketLossTool = false) : p.calPktLoss env n = p := by
  rw [calPktLoss, if_pos h]

lemma calPktLoss_enable : (p.calPktLoss env n).enablePacketLossTool = p.enablePacketLossTool := by
  obtain ⟨_, _, _, h⟩ := p.calPktLoss_frame env n
  rw [h]

variable (h : p.enablePacketLossTool = true)
include h

lemma calPktLoss_lastSeqnum : (p.calPktLoss env n).seqnumLossMessage.lastSeqnum = n := by
  rw [calPktLoss, if_neg (by simp [h])]
  dsimp only
  split_ifs <;> rfl

lemma calPktLoss_totalPacketCount : (p.calPktLoss env n).totalPacketCount =
    if p.seqnumLossMessage.lastSeqnum < n ∧ p.seqnumLossMessage.lastSeqnum ≠ 0
    then p.totalPacketCount + (n - p.seqnumLossMessage.lastSeqnum) else p.totalPacketCount := by
  rw [calPktLoss, if_neg (by simp [h])]
  dsimp only [restartLossMessage, tick]
  split_ifs <;> rfl

lemma calPktLoss_first (hstart : p.seqnumLossMessage.startSeqnum = 0) :
    (p.calPktLoss env n).seqnumLossMessage.startSeqnum = n ∧
      (p.calPktLoss env n).seqnumLossMessage.totalLossCount = 0 := by
  rw [calPktLoss, if_neg (by simp [h])]
  dsimp only [restartLossMessage, tick]
  split_ifs <;> exact ⟨rfl, rfl⟩

lemma calPktLoss_startSeqnum (hstart : p.seqnumLossMessage.startSeqnum ≠ 0) :
    (p.calPktLoss env n).seqnumLossMessage.startSeqnum = p.seqnumLossMessage.startSeqnum ∨
      (p.calPktLoss env n).seqnumLossMessage.startSeqnum = n := by
  rw [calPktLoss, if_neg (by simp [h])]
  dsimp only [restartLossMessage, tick]
  split_ifs <;> first | exact Or.inl rfl | exact Or.inr rfl

lemma calPktLoss_totalLossCount (hstart : p.seqnumLossMessage.startSeqnum ≠ 0) :
    (p.calPktLoss env n).seqnumLossMessage.totalLossCount =
      if 1 < n - p.seqnumLossMessage.lastSeqnum
      then p.seqnumLossMessage.totalLossCount + (n - p.seqnumLossMessage.lastSeqnum - 1)
      else p.seqnumLossMessage.totalLossCount := by
  rw [calPktLoss, if_neg (by simp [h])]
  dsimp only [restartLossMessage, tick]
  split_ifs <;> rfl

end Step

section Increasing

def calPktLosses (seqnums : List UInt32) (p : GeneralParser) : GeneralParser :=
  seqnums.foldl (fun p n => p.calPktLoss env n) p

def repeated (groups : List (UInt32 × ℕ)) : List UInt32 := groups.flatMap fun g => List.replicate (g.2 + 1) g.1

structure Totals (first : UInt32) (k : ℕ) (s : UInt32) (p : GeneralParser) : Prop where
  enable : p.enablePacketLossTool = true
  start : p.seqnumLossMessage.startSeqnum ≠ 0
  last : p.seqnumLossMessage.lastSeqnum = s
  pos : 0 < first.toNat
  le : first.toNat ≤ s.toNat
  packets : p.totalPacketCount.toNat = s.toNat - first.toNat
  losses : p.seqnumLossMessage.totalLossCount.toNat + k = s.toNat - first.toNat

lemma start_ne_zero (h : p.enablePacketLossTool = true) (hs : p.seqnumLossMessage.startSeqnum ≠ 0) (hn : n ≠ 0) :
    (p.calPktLoss env n).seqnumLossMessage.startSeqnum ≠ 0 := by
  rcases calPktLoss_startSeqnum env h hs with hstart | hstart
  · rwa [hstart]
  · rwa [hstart]

lemma Totals.again (h : Totals first k s p) : Totals first k s (p.calPktLoss env s) := by
  have hs : s ≠ 0 := by
    rintro rfl
    exact absurd h.le (not_le.mpr h.pos)
  refine ⟨?_, start_ne_zero env h.enable h.start hs, calPktLoss_lastSeqnum env h.enable, h.pos, h.le, ?_, ?_⟩
  · rw [calPktLoss_enable, h.enable]
  · rw [calPktLoss_totalPacketCount env h.enable, h.last, if_neg fun hlt => (UInt32.lt_irrefl s) hlt.1, h.packets]
  · rw [calPktLoss_totalLossCount env h.enable h.start, h.last, UInt32.sub_self, if_neg (by decide), h.losses]

lemma Totals.next (h : Totals first k s p) (hst : s < t) : Totals first (k + 1) t (p.calPktLoss env t) := by
  have hlt : s.toNat < t.toNat := UInt32.lt_iff_toNat_lt.mp hst
  have hle : s ≤ t := UInt32.le_of_lt hst
  have hs : s ≠ 0 := by
    rintro rfl
    exact absurd h.le (not_le.mpr h.pos)
  have ht : t ≠ 0 := by
    rintro rfl
    exact absurd hlt (Nat.not_lt_zero _)
  have hdiff : (t - s).toNat = t.toNat - s.toNat := UInt32.toNat_sub_of_le _ _ hle
  have ht32 := t.toNat_lt
  have hpackets := h.packets
  have hlosses := h.losses
  have hpos := h.pos
  have hfirst := h.le
  refine ⟨?_, start_ne_zero env h.enable h.start ht, calPktLoss_lastSeqnum env h.enable, h.pos,
    h.le.trans hlt.le, ?_, ?_⟩
  · rw [calPktLoss_enable, h.enable]
  · rw [calPktLoss_totalPacketCount env h.enable, h.last, if_pos ⟨hst, hs⟩, UInt32.toNat_add, hdiff, h.packets]
    omega
  · rw [calPktLoss_totalLossCount env h.enable h.start, h.last]
    by_cases hone : 1 < t - s
    · have hone' : 1 < (t - s).toNat := UInt32.lt_iff_toNat_lt.mp hone
      have hsub : (t - s - 1).toNat = (t - s).toNat - 1 :=
        UInt32.toNat_sub_of_le _ _ (UInt32.le_of_lt hone)
      rw [if_pos hone, UInt32.toNat_add, hsub, hdiff]
      omega
    · have hone' : (t - s).toNat ≤ 1 := UInt32.le_iff_toNat_le.mp (UInt32.not_lt.mp hone)
      rw [if_neg hone]
      omega

lemma Totals.replicate (h : Totals first k s p) (m : ℕ) :
    Totals first k s (p.calPktLosses env (List.replicate m s)) := by
  induction m generalizing p with
  | zero => exact h
  | succ m ih => exact ih (h.again env)

lemma Totals.group (h : Totals first k s p) (hst : s < t) (m : ℕ) :
    Totals first (k + 1) t (p.calPktLosses env (List.replicate (m + 1) t)) :=
  (h.next env hst).replicate env m

lemma calPktLosses_append (as bs : List UInt32) :
    p.calPktLosses env (as ++ bs) = (p.calPktLosses env as).calPktLosses env bs := List.foldl_append

lemma Totals.groups {groups : List (UInt32 × ℕ)} (again : ℕ) (h : Totals first k s p)
    (hchain : List.IsChain (· < ·) (s :: groups.map Prod.fst)) :
    Totals first (k + groups.length) ((s, again) :: groups |>.getLast (List.cons_ne_nil _ _)).1
      (p.calPktLosses env (repeated groups)) := by
  induction groups generalizing p k s again with
  | nil => exact h
  | cons g groups ih =>
    rw [List.map_cons, List.isChain_cons_cons] at hchain
    have hnext := ih g.2 (h.group env hchain.1 g.2) hchain.2
    rw [repeated, List.flatMap_cons, calPktLosses_append, List.getLast_cons (List.cons_ne_nil _ _), List.length_cons]
    rwa [Nat.add_right_comm, Nat.add_assoc] at hnext

/-- Increasing sequence numbers, each any number of times: the totals are the numbers passed and those that did not
come, whenever the log branch starts its count over. -/
theorem calPktLosses_totals (env : Environment) (p : GeneralParser) (henable : p.enablePacketLossTool = true)
    (hnew : p.lossCounts = (0, {})) (first : UInt32 × ℕ) (rest : List (UInt32 × ℕ)) (hfirst : 0 < first.1)
    (hchain : List.IsChain (· < ·) ((first :: rest).map Prod.fst)) :
    let last := ((first :: rest).getLast (List.cons_ne_nil _ _)).1
    let q := p.calPktLosses env (repeated (first :: rest))
    q.totalPacketCount.toNat = last.toNat - first.1.toNat ∧
      q.seqnumLossMessage.totalLossCount.toNat + rest.length = last.toNat - first.1.toNat := by
  intro last q
  obtain ⟨hcount, hmessage⟩ := Prod.mk.inj hnew
  have hpos : 0 < first.1.toNat := UInt32.lt_iff_toNat_lt.mp hfirst
  have hne : first.1 ≠ 0 := by
    intro h0
    rw [h0] at hpos
    exact hpos.false
  have hstart : p.seqnumLossMessage.startSeqnum = 0 := by rw [hmessage]
  obtain ⟨hstart', hloss⟩ := calPktLoss_first env (n := first.1) henable hstart
  have hfresh : Totals first.1 0 first.1 (p.calPktLoss env first.1) := by
    refine ⟨?_, by rwa [hstart'], calPktLoss_lastSeqnum env henable, hpos, le_rfl, ?_, ?_⟩
    · rw [calPktLoss_enable, henable]
    · rw [calPktLoss_totalPacketCount env henable, hmessage, if_neg fun h => h.2 rfl, hcount, Nat.sub_self]
      rfl
    · rw [hloss, Nat.sub_self]
      rfl
  have hrun : Totals first.1 rest.length last q := by
    have hgroup := hfresh.replicate env first.2
    have hrest := hgroup.groups env first.2 hchain
    rw [Nat.zero_add] at hrest
    have hq : q = ((p.calPktLoss env first.1).calPktLosses env (List.replicate first.2 first.1)).calPktLosses env
        (repeated rest) := calPktLosses_append env _ _
    rw [hq]
    exact hrest
  exact ⟨hrun.packets, hrun.losses⟩

def counting : GeneralParser := { (default : GeneralParser) with enablePacketLossTool := true }

theorem calPktLosses_totals_gap :
    (counting.calPktLosses default (repeated [(5, 1), (9, 0)])).totalPacketCount.toNat = 9 - 5 ∧
      (counting.calPktLosses default (repeated [(5, 1), (9, 0)])).seqnumLossMessage.totalLossCount.toNat +
        1 = 9 - 5 :=
  calPktLosses_totals default counting rfl rfl (5, 1) [(9, 0)] (by decide) (by decide)

end Increasing

section Consistent

/-- The sequence number is not one whose gap is counted as lost while `total_packet_count_` stands still, and the
count does not leave 32 bits. -/
def Accountable (p : GeneralParser) (n : UInt32) : Prop :=
  p.enablePacketLossTool = false ∨ p.seqnumLossMessage.startSeqnum = 0 ∨
    (1 < n - p.seqnumLossMessage.lastSeqnum →
      p.seqnumLossMessage.lastSeqnum < n ∧ p.seqnumLossMessage.lastSeqnum ≠ 0) ∧
    (p.seqnumLossMessage.lastSeqnum < n →
      p.totalPacketCount.toNat + (n - p.seqnumLossMessage.lastSeqnum).toNat < 2 ^ 32)

lemma calPktLoss_consistent (h : p.Accountable n) (hle : p.seqnumLossMessage.totalLossCount ≤ p.totalPacketCount) :
    (p.calPktLoss env n).seqnumLossMessage.totalLossCount ≤ (p.calPktLoss env n).totalPacketCount := by
  rcases Bool.eq_false_or_eq_true p.enablePacketLossTool with henable | henable
  swap
  · rwa [calPktLoss_disabled env henable]
  by_cases hstart : p.seqnumLossMessage.startSeqnum = 0
  · rw [(calPktLoss_first env henable hstart).2]
    exact UInt32.zero_le
  obtain ⟨hgap, hsmall⟩ := (h.resolve_left (by simp [henable])).resolve_left hstart
  rw [calPktLoss_totalLossCount env henable hstart, calPktLoss_totalPacketCount env henable]
  by_cases hup : p.seqnumLossMessage.lastSeqnum < n ∧ p.seqnumLossMessage.lastSeqnum ≠ 0
  · have hfits := hsmall hup.1
    have hle' := UInt32.le_iff_toNat_le.mp hle
    rw [if_pos hup, UInt32.le_iff_toNat_le, UInt32.toNat_add]
    split_ifs with hone
    · have hone' : 1 < (n - p.seqnumLossMessage.lastSeqnum).toNat := UInt32.lt_iff_toNat_lt.mp hone
      have hsub : (n - p.seqnumLossMessage.lastSeqnum - 1).toNat = (n - p.seqnumLossMessage.lastSeqnum).toNat - 1 :=
        UInt32.toNat_sub_of_le _ _ (UInt32.le_of_lt hone)
      rw [UInt32.toNat_add, hsub]
      omega
    · omega
  · rw [if_neg hup, if_neg fun hone => hup (hgap hone)]
    exact hle

/-- While every sequence number is accountable, no more packets are reported lost than counted. -/
theorem reaches_consistent (env : Environment) (p q : GeneralParser) (hnew : p.lossCounts = (0, {}))
    (h : Reaches (fun p n => some (p.calPktLoss env n)) Accountable p q) :
    q.seqnumLossMessage.totalLossCount ≤ q.totalPacketCount := by
  obtain ⟨hcount, hmessage⟩ := Prod.mk.inj hnew
  refine reaches_invariant (P := fun p => p.seqnumLossMessage.totalLossCount ≤ p.totalPacketCount) ?_ h ?_
  · rintro s n t hn hle hstep
    obtain rfl := Option.some.inj hstep
    exact calPktLoss_consistent env hn hle
  · rw [hcount, hmessage]
    exact UInt32.zero_le

theorem reaches_consistent_gap :
    ((counting.calPktLoss default 5).calPktLoss default 9).seqnumLossMessage.totalLossCount ≤
      ((counting.calPktLoss default 5).calPktLoss default 9).totalPacketCount := by
  refine reaches_consistent default counting _ rfl (Relation.ReflTransGen.head ⟨5, Or.inr (Or.inl rfl), rfl⟩
    (Relation.ReflTransGen.single ⟨9, Or.inr (Or.inr ⟨fun _ => ?_, fun _ => ?_⟩), rfl⟩))
  · decide
  · decide

/-- A sensor that starts over at a smaller number. -/
theorem calPktLosses_inconsistent : ¬∀ seqnums : List UInt32,
    (counting.calPktLosses default seqnums).seqnumLossMessage.totalLossCount ≤
      (counting.calPktLosses default seqnums).totalPacketCount :=
  fun h => absurd (h [10, 5]) (by decide)

end Consistent

end GeneralParser

end HesaiSdk.Parsing
