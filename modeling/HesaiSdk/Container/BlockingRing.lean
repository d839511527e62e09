import HesaiSdk.Container.Ring
import HesaiSdk.Library.Transition

/-! `BlockingRing` between any number of threads: each guarded body is one step. -/

namespace HesaiSdk.Container

open Library.Transition

/-- A call of one of the threads; it waits until the ring is not full, or not empty. -/
inductive Call (T : Type) where
  | pushBack (value : T)
  | emplaceBack (value : T)
  | popFront
  | tryPopFront (timeout : Bool)

def Call.given {T : Type} : Call T → Option T
  | .pushBack value => some value
  | .emplaceBack value => some value
  | _ => none

/-- The ring, and beside it what has gone in and come out. -/
structure BlockingRing (T : Type) (N : ℕ) where
  ring : Ring T N
  pushed : List T
  popped : List T

namespace BlockingRing

variable {T ι : Type} {N : ℕ}

def start (hN : 0 < N) (memory : Fin N → T) : BlockingRing T N := ⟨Ring.new hN memory, [], []⟩

def push (value : T) (s : BlockingRing T N) : Option (BlockingRing T N) :=
  if h : s.ring.notFull = true then some { s with ring := s.ring.pushBack h value, pushed := s.pushed ++ [value] }
  else none

/-- The value that `try_pop_front` gives back, if it does not return false, and the ring after it. The
wait ends when the ring is not empty or the time is over; only then, if it is still empty, it fails. -/
def tryPopFront (timeout : Bool) (s : BlockingRing T N) : Option (Option T × BlockingRing T N) :=
  if s.ring.notEmpty then
    some (some s.ring.peekFront, { s with
      ring := s.ring.effPopFront
      popped := s.popped ++ [s.ring.peekFront] })
  else if timeout then some (none, s)
  else none

def popFront [Inhabited T] (s : BlockingRing T N) : Option (T × BlockingRing T N) :=
  if s.ring.notEmpty then
    some (s.ring.popFront.1, { s with
      ring := s.ring.popFront.2
      popped := s.popped ++ [s.ring.popFront.1] })
  else none

/-- What a call hands out, which is nothing for a push and for a `try_pop_front` that returns false. -/
def perform [Inhabited T] (s : BlockingRing T N) : Call T → Option (Option T × BlockingRing T N)
  | .pushBack value => (s.push value).map fun t => (none, t)
  | .emplaceBack value => (s.push value).map fun t => (none, t)
  | .popFront => s.popFront.map fun r => (some r.1, r.2)
  | .tryPopFront timeout => s.tryPopFront timeout

def Lossless (s : BlockingRing T N) : Prop := s.popped ++ s.ring.contents = s.pushed

variable {s t : BlockingRing T N}

lemma push_lossless {value : T} (hs : s.Lossless) (h : s.push value = some t) : t.Lossless := by
  rw [push] at h
  split_ifs at h with hroom
  obtain rfl := Option.some.inj h
  rw [Lossless, Ring.contents_pushBack, ← List.append_assoc, hs]

lemma push_lists {value : T} (h : s.push value = some t) : t.pushed = s.pushed ++ [value] ∧ t.popped = s.popped := by
  rw [push] at h
  split_ifs at h with hroom
  obtain rfl := Option.some.inj h
  exact ⟨rfl, rfl⟩

lemma contents_push {value : T} (h : s.push value = some t) : t.ring.contents = s.ring.contents ++ [value] := by
  rw [push] at h
  split_ifs at h with hroom
  obtain rfl := Option.some.inj h
  exact Ring.contents_pushBack hroom

lemma contents_tryPopFront {timeout : Bool} {value : Option T} (h : s.tryPopFront timeout = some (value, t)) :
    value.toList ++ t.ring.contents = s.ring.contents := by
  rw [tryPopFront] at h
  split_ifs at h with hsome htime
  · obtain ⟨rfl, rfl⟩ := Prod.mk.inj (Option.some.inj h)
    exact (Ring.contents_eq_cons hsome).symm
  · obtain ⟨rfl, rfl⟩ := Prod.mk.inj (Option.some.inj h)
    rfl

variable [Inhabited T] {value : T} {call : Call T} {out : Option T}

lemma popFront_lossless (hs : s.Lossless) (h : s.popFront = some (value, t)) : t.Lossless := by
  rw [popFront] at h
  split_ifs at h with hsome
  obtain ⟨-, rfl⟩ := Prod.mk.inj (Option.some.inj h)
  rw [Lossless, List.append_assoc, List.singleton_append, ← Ring.contents_popFront hsome, hs]

lemma popFront_lists (h : s.popFront = some (value, t)) :
    t.pushed = s.pushed ∧ t.popped = s.popped ++ [value] := by
  rw [popFront] at h
  split_ifs at h with hsome
  obtain ⟨rfl, rfl⟩ := Prod.mk.inj (Option.some.inj h)
  exact ⟨rfl, rfl⟩

lemma contents_popFront (h : s.popFront = some (value, t)) : s.ring.contents = value :: t.ring.contents := by
  rw [popFront] at h
  split_ifs at h with hsome
  obtain ⟨rfl, rfl⟩ := Prod.mk.inj (Option.some.inj h)
  exact Ring.contents_popFront hsome

lemma perform_contents (h : s.perform call = some (out, t)) :
    out.toList ++ t.ring.contents = s.ring.contents ++ call.given.toList := by
  cases call with
  | pushBack value =>
    obtain ⟨t', hpush, hout⟩ := Option.map_eq_some_iff.mp h
    obtain ⟨rfl, rfl⟩ := Prod.mk.inj hout
    exact contents_push hpush
  | emplaceBack value =>
    obtain ⟨t', hpush, hout⟩ := Option.map_eq_some_iff.mp h
    obtain ⟨rfl, rfl⟩ := Prod.mk.inj hout
    exact contents_push hpush
  | popFront =>
    obtain ⟨⟨value, t'⟩, hpop, hout⟩ := Option.map_eq_some_iff.mp h
    obtain ⟨rfl, rfl⟩ := Prod.mk.inj hout
    exact (contents_popFront hpop).symm.trans (List.append_nil _).symm
  | tryPopFront timeout => exact (contents_tryPopFront h).trans (List.append_nil _).symm

section Histories

/-- A call that has returned to its thread, with what it has handed out. -/
structure Returned (ι T : Type) where
  thread : ι
  call : Call T
  out : Option T

def step (s : BlockingRing T N × List (Returned ι T)) (a : ι × Call T) :
    Option (BlockingRing T N × List (Returned ι T)) :=
  (s.1.perform a.2).map fun r => (r.2, s.2 ++ [⟨a.1, a.2, r.1⟩])

def given (history : List (Returned ι T)) : List T := history.filterMap fun r => r.call.given

def handedOut (history : List (Returned ι T)) : List T := history.filterMap Returned.out

def Fifo (s : BlockingRing T N × List (Returned ι T)) : Prop := handedOut s.2 ++ s.1.ring.contents = given s.2

lemma step_fifo {s t : BlockingRing T N × List (Returned ι T)} {a : ι × Call T} (hs : Fifo s)
    (h : step s a = some t) : Fifo t := by
  obtain ⟨⟨out, ring⟩, hperform, rfl⟩ := Option.map_eq_some_iff.mp h
  have hcontents := perform_contents hperform
  rw [Fifo, handedOut, given] at hs ⊢
  have hout : List.filterMap Returned.out [(⟨a.1, a.2, out⟩ : Returned ι T)] = out.toList := by
    cases out <;> rfl
  have hgiven : List.filterMap (fun r => r.call.given) [(⟨a.1, a.2, out⟩ : Returned ι T)] = a.2.given.toList := by
    cases hcall : a.2.given with
    | none => simp [hcall]
    | some value => simp [hcall]
  rw [List.filterMap_append, List.filterMap_append, hout, hgiven, List.append_assoc, hcontents, ← List.append_assoc,
    hs]

/-- A bounded FIFO that loses nothing: in every state that the threads reach, the values handed out so far and
then the ring are the values given so far, and a call that fails has left the ring as it was. -/
theorem reaches_lossless (hN : 0 < N) (memory : Fin N → T) (s : BlockingRing T N) (history : List (Returned ι T))
    (hs : Reaches step (fun _ _ => True) (start hN memory, []) (s, history)) :
    handedOut history ++ s.ring.contents = given history ∧ s.ring.contents.length = s.ring.size ∧ s.ring.size ≤ N ∧
      ∀ timeout t, s.tryPopFront timeout = some (none, t) → t = s := by
  have hfifo : Fifo (s, history) := reaches_invariant (fun _ _ _ _ hs h => step_fifo hs h) hs rfl
  refine ⟨hfifo, Ring.length_contents, s.ring.size_le, fun timeout t h => ?_⟩
  rw [tryPopFront] at h
  split_ifs at h
  · exact absurd (Prod.mk.inj (Option.some.inj h)).1 (Option.some_ne_none _)
  · exact (Prod.mk.inj (Option.some.inj h)).2.symm

/-- Two producers and two consumers on a ring of two, over the end of the memory; one wait is over too early. -/
def twoByTwo : List (Bool × Call ℕ) :=
  [(true, .tryPopFront true), (true, .pushBack 7), (false, .emplaceBack 8), (false, .popFront), (true, .pushBack 9),
    (true, .tryPopFront false), (false, .popFront), (false, .pushBack 10)]

theorem reaches_lossless_twoByTwo : ∃ (s : BlockingRing ℕ 2) (history : List (Returned Bool ℕ)),
    history.map (fun r => (r.thread, r.call)) = twoByTwo ∧
      history.map Returned.out = [none, none, none, some 7, none, some 8, some 9, none] ∧
      handedOut history ++ s.ring.contents = [7, 8, 9, 10] := by
  obtain ⟨s, history, hs, hcalls, hout⟩ : ∃ (s : BlockingRing ℕ 2) (history : List (Returned Bool ℕ)),
      exec step twoByTwo (start Nat.two_pos fun _ => 0, []) = some (s, history) ∧
        history.map (fun r => (r.thread, r.call)) = twoByTwo ∧
        history.map Returned.out = [none, none, none, some 7, none, some 8, some 9, none] :=
    ⟨_, _, rfl, rfl, rfl⟩
  refine ⟨s, history, hcalls, hout, ?_⟩
  have hgiven : given history = [7, 8, 9, 10] := by
    have hmap : given history = (history.map fun r => (r.thread, r.call)).filterMap fun c => c.2.given := by
      rw [List.filterMap_map]
      rfl
    rw [hmap, hcalls]
    rfl
  exact (reaches_lossless Nat.two_pos (fun _ => 0) s history (reaches_of_exec hs)).1.trans hgiven

end Histories

end BlockingRing

end HesaiSdk.Container
