import HesaiSdk.Library.Transition
import Mathlib.Algebra.Order.Ring.Int
import Mathlib.Data.Int.Order.Basic
import Mathlib.Data.List.Count
import Mathlib.Data.List.Infix

/-! The threads that `SetThreadNum` starts and joins. -/

namespace HesaiSdk.Lidar

open Library.Transition

/-- The threads started so far for one of the functions: whether each of them has been joined. -/
abbrev Threads := List Bool

namespace Threads

def start (t : Threads) : Threads := t ++ [false]

def join (t : Threads) (i : ℕ) : Threads := t.set i true

/-- A thread is live from its start until it is joined. -/
def live (t : Threads) : ℕ := t.count false

variable {t : Threads}

@[simp] lemma live_start : t.start.live = t.live + 1 := by
  rw [live, start, List.count_append]
  rfl

end Threads

/-- The members of `Lidar` that `SetThreadNum` touches; a handle is the place of its thread among those
started for the same function. -/
structure ThreadPool where
  receivers : Threads
  parsers : Threads
  handlers : Threads
  running : Bool
  handleThreadCount : ℤ
  recievePacketThread : Option ℕ
  parserThread : Option ℕ
  handleThreadVec : List (Option ℕ)
  handleThreadPacketBuffer : List (List ℕ)

def resize {T : Type} (l : List T) (n : ℕ) (x : T) : List T := l.take n ++ List.replicate (n - l.length) x

namespace ThreadPool

def construct : ThreadPool where
  receivers := []
  parsers := []
  handlers := []
  running := true
  handleThreadCount := 0
  recievePacketThread := none
  parserThread := none
  handleThreadVec := []
  handleThreadPacketBuffer := []

/-- The number of threads that is asked for, and the number of CPUs that there are. -/
def clamp (cpu n : ℤ) : ℤ := if n > cpu - 2 then cpu - 2 else n

def joinReceiver (s : ThreadPool) : ThreadPool :=
  match s.recievePacketThread with
  | none => s
  | some i => { s with receivers := s.receivers.join i, recievePacketThread := none }

def joinHandle (s : ThreadPool) (i : ℕ) : Option ℕ → ThreadPool
  | none => s
  | some j => { s with handlers := s.handlers.join j, handleThreadVec := s.handleThreadVec.set i none }

/-- One round of the loop over the handle threads; past the end of a vector it has no meaning. -/
def joinHandler (s : ThreadPool) (i : ℕ) : Option ThreadPool :=
  s.handleThreadVec[i]?.bind fun handle =>
    if i < s.handleThreadPacketBuffer.length then
      some { s.joinHandle i handle with handleThreadPacketBuffer := s.handleThreadPacketBuffer.set i [] }
    else none

def startHandler (s : ThreadPool) (i : ℕ) : ThreadPool :=
  { s with
    handlers := s.handlers.start
    handleThreadVec := s.handleThreadVec.set i (some s.handlers.length) }

def startHandlers (s : ThreadPool) (n : ℤ) : ThreadPool :=
  if n > 1 then
    (List.range n.toNat).foldl startHandler { s with
      handleThreadVec := resize s.handleThreadVec n.toNat none
      handleThreadPacketBuffer := resize s.handleThreadPacketBuffer n.toNat [] }
  else s

/-- The parser thread is started anew, whatever its handle was. -/
def startThreads (s : ThreadPool) (n : ℤ) : ThreadPool :=
  { s with
    handleThreadCount := n
    receivers := s.receivers.start
    recievePacketThread := some s.receivers.length
    parsers := s.parsers.start
    parserThread := some s.parsers.length }

def setThreadNum (cpu : ℤ) (s : ThreadPool) (n : ℤ) : Option ThreadPool :=
  if s.handleThreadCount = clamp cpu n then some s
  else
    let s := joinReceiver { s with running := false }
    ((List.range s.handleThreadCount.toNat).foldlM joinHandler s).map fun s =>
      ({ s with running := true }.startHandlers (clamp cpu n)).startThreads (clamp cpu n)

/-- One receive thread and one parser thread are live, and of the handle threads as many as are counted. -/
structure Proper (s : ThreadPool) : Prop where
  receivers : s.receivers.live = 1
  parsers : s.parsers.live = 1
  handlers : 1 < s.handleThreadCount → (s.handlers.live : ℤ) = s.handleThreadCount
  handleThreadVec : 1 < s.handleThreadCount → (s.handleThreadVec.length : ℤ) = s.handleThreadCount
  packetBuffer : 1 < s.handleThreadCount → (s.handleThreadPacketBuffer.length : ℤ) = s.handleThreadCount

/-- After each of the calls on a new object. -/
def ProperThroughout (cpu : ℤ) (calls : List ℤ) : Prop :=
  ∀ made, made <+: calls → made ≠ [] → ∃ s, exec (setThreadNum cpu) made construct = some s ∧ s.Proper

variable {cpu n : ℤ} {s t : ThreadPool}

lemma parsers_joinReceiver : s.joinReceiver.parsers = s.parsers := by
  rw [joinReceiver]
  split <;> rfl

lemma parsers_joinHandler {i : ℕ} (h : s.joinHandler i = some t) : t.parsers = s.parsers := by
  rw [joinHandler] at h
  obtain ⟨handle, -, h⟩ := Option.bind_eq_some_iff.mp h
  split_ifs at h
  obtain rfl := Option.some.inj h
  cases handle <;> rfl

lemma parsers_joinHandlers {l : List ℕ} (h : l.foldlM joinHandler s = some t) : t.parsers = s.parsers := by
  induction l generalizing s with
  | nil =>
    obtain rfl := Option.some.inj h
    rfl
  | cons i l ih =>
    rw [List.foldlM_cons] at h
    obtain ⟨u, hu, ht⟩ := Option.bind_eq_some_iff.mp h
    exact (ih ht).trans (parsers_joinHandler hu)

lemma foldl_startHandler (l : List ℕ) : (l.foldl startHandler s).receivers = s.receivers ∧
    (l.foldl startHandler s).parsers = s.parsers ∧
    (l.foldl startHandler s).handlers.live = s.handlers.live + l.length ∧
    (l.foldl startHandler s).handleThreadVec.length = s.handleThreadVec.length ∧
    (l.foldl startHandler s).handleThreadPacketBuffer = s.handleThreadPacketBuffer := by
  induction l generalizing s with
  | nil => exact ⟨rfl, rfl, rfl, rfl, rfl⟩
  | cons i l ih =>
    obtain ⟨hr, hp, hh, hv, hb⟩ := ih (s := s.startHandler i)
    have hlive : (s.startHandler i).handlers.live = s.handlers.live + 1 := Threads.live_start
    have hvec : (s.startHandler i).handleThreadVec.length = s.handleThreadVec.length := List.length_set
    rw [List.foldl_cons]
    refine ⟨hr, hp, ?_, hv.trans hvec, hb⟩
    rw [hh, hlive, List.length_cons]
    omega

lemma parsers_startHandlers : (s.startHandlers n).parsers = s.parsers := by
  rw [startHandlers]
  split_ifs
  · exact (foldl_startHandler _).2.1
  · rfl

lemma receivers_startHandlers : (s.startHandlers n).receivers = s.receivers := by
  rw [startHandlers]
  split_ifs
  · exact (foldl_startHandler _).1
  · rfl

lemma setThreadNum_same (h : s.handleThreadCount = clamp cpu n) : setThreadNum cpu s n = some s := if_pos h

lemma live_parsers_setThreadNum (h : setThreadNum cpu s n = some t) (hne : s.handleThreadCount ≠ clamp cpu n) :
    t.parsers.live = s.parsers.live + 1 := by
  rw [setThreadNum, if_neg hne] at h
  obtain ⟨u, hu, rfl⟩ := Option.map_eq_some_iff.mp h
  have hkept : u.parsers = s.parsers := (parsers_joinHandlers hu).trans parsers_joinReceiver
  have hstart : ({ u with running := true }.startHandlers (clamp cpu n)).parsers = s.parsers :=
    parsers_startHandlers.trans hkept
  exact (congrArg (fun p => Threads.live (Threads.start p)) hstart).trans Threads.live_start

@[simp] lemma length_resize {T : Type} (l : List T) (m : ℕ) (x : T) : (resize l m x).length = m := by
  rw [resize, List.length_append, List.length_take, List.length_replicate]
  omega

def first (n : ℤ) : ThreadPool := (construct.startHandlers n).startThreads n

lemma setThreadNum_construct (h : clamp cpu n ≠ 0) : setThreadNum cpu construct n = some (first (clamp cpu n)) :=
  if_neg h.symm

lemma proper_first : (first n).Proper := by
  have hparts (hn : 1 < n) : (first n).handlers.live = n.toNat ∧ (first n).handleThreadVec.length = n.toNat ∧
      (first n).handleThreadPacketBuffer.length = n.toNat := by
    obtain ⟨-, -, hlive, hvec, hbuffer⟩ := foldl_startHandler (List.range n.toNat)
      (s := { construct with
        handleThreadVec := resize [] n.toNat none
        handleThreadPacketBuffer := resize [] n.toNat [] })
    have hstart : construct.startHandlers n = _ := if_pos hn
    have hhandlers : (first n).handlers = (construct.startHandlers n).handlers := rfl
    have hvectors : (first n).handleThreadVec = (construct.startHandlers n).handleThreadVec := rfl
    have hbuffers : (first n).handleThreadPacketBuffer = (construct.startHandlers n).handleThreadPacketBuffer := rfl
    rw [hhandlers, hvectors, hbuffers, hstart]
    exact ⟨hlive.trans ((Nat.zero_add _).trans List.length_range), hvec.trans (length_resize _ _ _),
      (congrArg List.length hbuffer).trans (length_resize _ _ _)⟩
  have hcast (hn : 1 < n) : (n.toNat : ℤ) = n := Int.toNat_of_nonneg (by omega)
  refine ⟨?_, ?_, fun hn => ?_, fun hn => ?_, fun hn => ?_⟩
  · exact congrArg (fun r => Threads.live (Threads.start r)) receivers_startHandlers
  · exact congrArg (fun p => Threads.live (Threads.start p)) parsers_startHandlers
  · rw [(hparts hn).1]
    exact hcast hn
  · rw [(hparts hn).2.1]
    exact hcast hn
  · rw [(hparts hn).2.2]
    exact hcast hn

lemma proper_rest_iff (hs : s.Proper) (rest : List ℤ) :
    (∀ made, made <+: rest → ∃ t, exec (setThreadNum cpu) made s = some t ∧ t.Proper) ↔
      ∀ n ∈ rest, clamp cpu n = s.handleThreadCount := by
  induction rest with
  | nil =>
    refine iff_of_true (fun made hmade => ?_) (fun n hn => absurd hn List.not_mem_nil)
    obtain rfl := List.prefix_nil.mp hmade
    exact ⟨s, rfl, hs⟩
  | cons n rest ih =>
    have hexec (hn : clamp cpu n = s.handleThreadCount) (made : List ℤ) :
        exec (setThreadNum cpu) (n :: made) s = exec (setThreadNum cpu) made s := by
      rw [exec, setThreadNum_same hn.symm]
      rfl
    rw [List.forall_mem_cons]
    constructor
    · intro h
      have hn : clamp cpu n = s.handleThreadCount := by
        by_contra hne
        obtain ⟨t, ht, hproper⟩ := h [n] (List.prefix_append [n] rest)
        obtain ⟨u, hu, hut⟩ := Option.bind_eq_some_iff.mp ht
        obtain rfl := Option.some.inj hut
        have hlive := live_parsers_setThreadNum hu (Ne.symm hne)
        rw [hproper.parsers, hs.parsers] at hlive
        omega
      refine ⟨hn, ih.mp fun made hmade => ?_⟩
      rw [← hexec hn]
      exact h _ (List.prefix_cons_inj n |>.mpr hmade)
    · rintro ⟨hn, hrest⟩ made hmade
      cases made with
      | nil => exact ⟨s, rfl, hs⟩
      | cons m made =>
        obtain ⟨hm, hmade⟩ := List.cons_prefix_cons.mp hmade
        rw [hm, hexec hn]
        exact ih.mpr hrest made hmade

lemma clamp_eq_zero_iff (hn : 1 ≤ n) : clamp cpu n = 0 ↔ cpu = 2 := by
  rw [clamp]
  split_ifs <;> omega

lemma properThroughout_cons_iff (h : clamp cpu n ≠ 0) (rest : List ℤ) :
    ProperThroughout cpu (n :: rest) ↔ ∀ m ∈ rest, clamp cpu m = clamp cpu n := by
  have hexec (made : List ℤ) :
      exec (setThreadNum cpu) (n :: made) construct = exec (setThreadNum cpu) made (first (clamp cpu n)) := by
    rw [exec, setThreadNum_construct h]
    rfl
  refine Iff.trans ⟨fun hall made hmade => ?_, fun hall made hmade hne => ?_⟩
    (proper_rest_iff (s := first (clamp cpu n)) proper_first rest)
  · rw [← hexec]
    exact hall _ ((List.prefix_cons_inj n).mpr hmade) (List.cons_ne_nil n made)
  · obtain ⟨m, made, rfl⟩ := List.exists_cons_of_ne_nil hne
    obtain ⟨hm, hmade⟩ := List.cons_prefix_cons.mp hmade
    rw [hm, hexec]
    exact hall made hmade

/-- The pool is as it should be after each call just when there are not two CPUs, for then no call starts
a thread, and every call comes down to the number of threads of the first. -/
theorem properThroughout_iff (cpu : ℤ) (calls : List ℤ) (hcalls : ∀ n ∈ calls, 1 ≤ n) :
    ProperThroughout cpu calls ↔
      (calls = [] ∨ cpu ≠ 2) ∧ ∀ n ∈ calls, ∀ m ∈ calls, clamp cpu n = clamp cpu m := by
  cases calls with
  | nil =>
    refine iff_of_true (fun made hmade hne => absurd (List.prefix_nil.mp hmade) hne) ⟨Or.inl rfl, ?_⟩
    exact fun n hn => absurd hn List.not_mem_nil
  | cons n rest =>
    have hn : clamp cpu n = 0 ↔ cpu = 2 := clamp_eq_zero_iff (hcalls n List.mem_cons_self)
    by_cases htwo : cpu = 2
    · refine iff_of_false (fun hall => ?_) (fun hcond => hcond.1.elim (List.cons_ne_nil n rest) fun h => h htwo)
      obtain ⟨s, hs, hproper⟩ := hall [n] (List.prefix_append [n] rest) (List.cons_ne_nil n [])
      obtain ⟨t, ht, hts⟩ := Option.bind_eq_some_iff.mp hs
      obtain rfl := Option.some.inj hts
      rw [setThreadNum_same (hn.mpr htwo).symm] at ht
      obtain rfl := Option.some.inj ht
      exact absurd hproper.receivers (by decide)
    · rw [properThroughout_cons_iff (mt hn.mp htwo)]
      refine ⟨fun hrest => ⟨Or.inr htwo, ?_⟩, fun hcond m hm => ?_⟩
      · have hall : ∀ m ∈ n :: rest, clamp cpu m = clamp cpu n := List.forall_mem_cons.mpr ⟨rfl, hrest⟩
        exact fun m hm k hk => (hall m hm).trans (hall k hk).symm
      · exact hcond.2 m (List.mem_cons_of_mem n hm) n List.mem_cons_self

/-- The first call starts six handle threads, and the others ask for as many as there can be. -/
theorem properThroughout_clamped : (∃ s, exec (setThreadNum 8) [9, 6, 100] construct = some s ∧ s.handlers.live = 6) ∧
    ProperThroughout 8 [9, 6, 100] :=
  ⟨⟨_, rfl, by decide⟩, (properThroughout_iff 8 [9, 6, 100] (by decide)).mpr ⟨Or.inr (by decide), by decide⟩⟩

/-- On eight CPUs four threads and then two: the first parser thread is never joined. -/
theorem not_properThroughout_fewer : ¬∀ cpu calls, 1 ≤ cpu → (∀ n ∈ calls, 1 ≤ n) → ProperThroughout cpu calls := by
  intro h
  obtain ⟨s, hs, hproper⟩ := h 8 [4, 2] (by decide) (by decide) [4, 2] (List.prefix_refl _) (List.cons_ne_nil _ _)
  have hlive : (exec (setThreadNum 8) [4, 2] construct).map (fun s => s.parsers.live) = some 2 := by decide +kernel
  rw [hs] at hlive
  exact absurd (hproper.parsers.symm.trans (Option.some.inj hlive)) (by decide)

end ThreadPool

end HesaiSdk.Lidar
