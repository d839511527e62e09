import HesaiSdk.Library.Logged

/-! A producer that puts at most one message into a FIFO for each of its inputs, and a consumer that takes them out
at its own pace. -/

namespace Library.Channel

variable {σ κ ι μ χ ε : Type*} (produce : σ → ι → σ × Option μ) (consume : κ → μ → χ → Logged ε κ)

def after : List ι → σ → σ
  | [], s => s
  | i :: is, s => after is (produce s i).1

def messages : List ι → σ → List μ
  | [], _ => []
  | i :: is, s => (produce s i).2.toList ++ messages is (produce s i).1

/-- The producer calls the consumer itself. -/
def direct (s : σ × κ) (a : ι × χ) : Logged ε (σ × κ) :=
  match (produce s.1 a.1).2 with
  | none => ⟨((produce s.1 a.1).1, s.2), []⟩
  | some m => ⟨((produce s.1 a.1).1, (consume s.2 m a.2).val), (consume s.2 m a.2).log⟩

/-- What the consumer has done is what calling it directly does on the first inputs, and the queue holds the
messages of the others. -/
def Delivered (s : σ) (k : κ) (inputs : List ι) (queue : List μ) (history : List (ι × χ)) (x : Logged ε κ) : Prop :=
  runs (direct produce consume) history (s, k) = ⟨(after produce (history.map Prod.fst) s, x.val), x.log⟩ ∧
    ∃ rest, inputs = history.map Prod.fst ++ rest ∧
      queue = messages produce rest (after produce (history.map Prod.fst) s)

section Lemmas

variable {produce consume} {s : σ} {k : κ} {i : ι} {c : χ} {is js inputs : List ι} {m : μ} {queue : List μ}
  {history : List (ι × χ)} {x : Logged ε κ}

lemma after_append : after produce (is ++ js) s = after produce js (after produce is s) := by
  induction is generalizing s with
  | nil => rfl
  | cons i is ih => exact ih

lemma after_concat : after produce (is ++ [i]) s = (produce (after produce is s) i).1 := after_append

lemma messages_append :
    messages produce (is ++ js) s = messages produce is s ++ messages produce js (after produce is s) := by
  induction is generalizing s with
  | nil => rfl
  | cons i is ih =>
    rw [List.cons_append, messages, ih, messages, after, List.append_assoc]

lemma messages_concat : messages produce (is ++ [i]) s =
    messages produce is s ++ (produce (after produce is s) i).2.toList := by
  rw [messages_append, messages, messages, List.append_nil]

/-- The inputs up to the one that made the first message. -/
lemma messages_eq_cons (h : messages produce is s = m :: queue) : ∃ silent i rest, is = silent ++ i :: rest ∧
    messages produce silent s = [] ∧ (produce (after produce silent s) i).2 = some m ∧
      messages produce rest (after produce (silent ++ [i]) s) = queue := by
  induction is generalizing s with
  | nil => cases h
  | cons i is ih =>
    rw [messages] at h
    cases hi : (produce s i).2 with
    | none =>
      rw [hi] at h
      obtain ⟨silent, j, rest, rfl, hsilent, hj, hrest⟩ := ih h
      refine ⟨i :: silent, j, rest, rfl, ?_, hj, hrest⟩
      rw [messages, hi, hsilent]
      rfl
    | some n =>
      rw [hi] at h
      obtain ⟨rfl, hrest⟩ := List.cons.inj h
      exact ⟨[], i, is, rfl, rfl, hi, hrest⟩

lemma runs_direct_silent (c : χ) (h : messages produce is s = []) :
    runs (direct produce consume) (is.map (·, c)) (s, k) = ⟨(after produce is s, k), []⟩ := by
  induction is generalizing s with
  | nil => rfl
  | cons i is ih =>
    obtain ⟨hi, hrest⟩ := List.append_eq_nil_iff.mp h
    have hstep : direct produce consume (s, k) (i, c) = ⟨((produce s i).1, k), []⟩ := by
      rw [direct, Option.toList_eq_nil_iff.mp hi]
    rw [List.map_cons, runs, hstep, ih hrest, after]
    rfl

lemma direct_of_some (hm : (produce s i).2 = some m) : direct produce consume (s, k) (i, c) =
    ⟨((produce s i).1, (consume k m c).val), (consume k m c).log⟩ := by
  rw [direct, hm]

lemma map_fst_pair (c : χ) (is : List ι) : (is.map (·, c)).map Prod.fst = is := by
  rw [List.map_map]
  exact List.map_id is

lemma Delivered.start : Delivered produce consume s k [] [] [] ⟨k, []⟩ := ⟨rfl, [], rfl, rfl⟩

lemma Delivered.put (i : ι) (h : Delivered produce consume s k inputs queue history x) :
    Delivered produce consume s k (inputs ++ [i]) (queue ++ (produce (after produce inputs s) i).2.toList)
      history x := by
  obtain ⟨hrun, rest, rfl, rfl⟩ := h
  refine ⟨hrun, rest ++ [i], List.append_assoc _ _ _, ?_⟩
  rw [messages_concat, after_append]

lemma Delivered.take (c : χ) (h : Delivered produce consume s k inputs (m :: queue) history x) :
    ∃ silent i, (∀ a ∈ silent, a.2 = c) ∧ Delivered produce consume s k inputs queue (history ++ silent ++ [(i, c)])
      ⟨(consume x.val m c).val, x.log ++ (consume x.val m c).log⟩ := by
  obtain ⟨hrun, rest, rfl, hqueue⟩ := h
  obtain ⟨silent, i, rest, rfl, hsilent, hi, hrest⟩ := messages_eq_cons hqueue.symm
  have hfst : (history ++ silent.map (·, c) ++ [(i, c)]).map Prod.fst = history.map Prod.fst ++ (silent ++ [i]) := by
    rw [List.map_append, List.map_append, map_fst_pair, List.append_assoc]
    rfl
  refine ⟨silent.map (·, c), i, ?_, ?_, rest, ?_, ?_⟩
  · intro a ha
    obtain ⟨j, -, rfl⟩ := List.mem_map.mp ha
    rfl
  · rw [hfst, after_append, after_concat, runs_append, runs_append, hrun, runs_direct_silent c hsilent, runs,
      direct_of_some hi, runs]
    simp
  · rw [hfst, List.append_assoc, List.append_assoc]
    rfl
  · rw [hfst, after_append, hrest]

end Lemmas

end Library.Channel
