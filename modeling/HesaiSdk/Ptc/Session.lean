import HesaiSdk.Ptc.Segmentation
import Mathlib.Data.List.Chain

/-! Calls of `QueryCommand` one after the other, each `Receive` getting all it asks for. -/

namespace HesaiSdk.Ptc

structure Exchange where
  byteStreamIn : List UInt8
  byteStreamOut : List UInt8
  response : PtcHeader
  payload : List UInt8

def whole : Segmentation := fun _ n => n

namespace Exchange

def answer (v : PtcVersion) (e : Exchange) (pending : List UInt8) : Answer :=
  queryCommand v whole e.byteStreamIn e.byteStreamOut e.response.cmd
    ⟨pending ++ (e.response.bytes v ++ e.payload), 0⟩

def WellFormed (e : Exchange) : Prop :=
  e.response.payloadLen = e.payload.length ∧ e.payload.length < 2 ^ 31

def Fits (v : PtcVersion) (e : Exchange) : Prop :=
  v.headerSize + e.byteStreamIn.length < 65536 ∧
    (e.response.returnCode = 0 → e.payload = [] → e.byteStreamOut = [])

def Decides (e : Exchange) (a : Answer) : Prop :=
  (a.ret = 0 ∧ a.byteStreamOut = e.payload) ↔ e.response.returnCode = 0

end Exchange

def session (v : PtcVersion) : List UInt8 → List Exchange → List Answer
  | _, [] => []
  | pending, e :: es => e.answer v pending :: session v (e.answer v pending).connection.stream es

/-- Left-over bytes behind which the scan, block by block, finds the next header. -/
def Clean (v : PtcVersion) (pending : List UInt8) : Prop :=
  (∀ i : ℕ, pending[i]? = some v.identifier0 → pending[i + 1]? = some v.identifier1 → (i + 1) % v.headerSize = 0) ∧
    pending.length % v.headerSize ≠ v.headerSize - 1

variable {v : PtcVersion} {pending : List UInt8}

lemma clean_nil (v : PtcVersion) : Clean v [] := by
  refine ⟨fun i hi => absurd hi (by simp), ?_⟩
  cases v <;> decide

lemma Clean.noPair_take (h : Clean v pending) : NoPair v (pending.take v.headerSize) := by
  intro i hi hnext
  rw [List.getElem?_take] at hi hnext
  split_ifs at hi hnext with h0 h1
  have hmod := h.1 i hi hnext
  rw [Nat.mod_eq_of_lt h1] at hmod
  exact absurd hmod (Nat.succ_ne_zero i)

lemma Clean.drop (h : Clean v pending) (hlen : v.headerSize ≤ pending.length) :
    Clean v (pending.drop v.headerSize) := by
  refine ⟨fun i hi hnext => ?_, ?_⟩
  · rw [List.getElem?_drop] at hi hnext
    have hmod := h.1 (v.headerSize + i) hi hnext
    rwa [Nat.add_assoc, Nat.add_mod_left] at hmod
  · rw [List.length_drop, ← Nat.mod_eq_sub_mod hlen]
    exact h.2

lemma receiveHeader_of_clean (h : PtcHeader) (rest pending : List UInt8) (k : ℕ) (hclean : Clean v pending) :
    ∃ k', receiveHeader v whole [] ⟨pending ++ (h.bytes v ++ rest), k⟩ = (h.bytes v, ⟨rest, k'⟩) := by
  generalize hl : pending.length = l
  induction l using Nat.strong_induction_on generalizing pending k with
  | _ l ih =>
    subst hl
    have hsize := v.headerSize_pos
    have hpiece : pieceLength whole k v.headerSize = v.headerSize := by
      rw [pieceLength, whole]
      omega
    rcases Nat.lt_or_ge pending.length v.headerSize with hlt | hge
    · have hnopair := hclean.noPair_take
      rw [List.take_of_length_le hlt.le] at hnopair
      refine receiveHeader_of_piece h rest pending k hnopair ?_
      have hmod := hclean.2
      rw [Nat.mod_eq_of_lt hlt] at hmod
      omega
    · rw [receiveHeader_skip_append (bytes_append_ne_nil v h rest) (hpiece.trans_le hge)
        (hpiece.symm ▸ hclean.noPair_take), hpiece]
      exact ih _ (by rw [List.length_drop]; omega) _ _ (hclean.drop hge) rfl

lemma answer_of_clean {e : Exchange} (hform : e.WellFormed) (hfits : e.Fits v) (hclean : Clean v pending) :
    e.Decides (e.answer v pending) ∧ (e.answer v pending).connection.stream =
      if e.response.returnCode = 0 then [] else e.payload := by
  obtain ⟨k, hheader⟩ := receiveHeader_of_clean e.response (e.payload ++ []) pending 0 hclean
  by_cases hcode : e.response.returnCode = 0
  · obtain ⟨k', hquery⟩ :=
      queryCommand_of_accepted e.byteStreamIn e.byteStreamOut [] hfits.1 hheader hcode hform.1 hform.2
    rw [List.append_nil] at hquery
    have hout : (if e.payload = [] then e.byteStreamOut else e.payload) = e.payload := by
      split_ifs with hempty
      · rw [hfits.2 hcode hempty, hempty]
      · rfl
    rw [Exchange.answer, hquery, if_pos hcode, hout]
    exact ⟨iff_of_true ⟨rfl, rfl⟩ hcode, rfl⟩
  · have hquery := queryCommand_of_rejected e.byteStreamIn e.byteStreamOut hfits.1 hheader hcode
    rw [List.append_nil] at hquery
    rw [Exchange.answer, hquery, if_neg hcode]
    refine ⟨iff_of_false (fun h => ?_) hcode, rfl⟩
    exact absurd (show (-1 : ℤ) = 0 from h.1) (by decide)

/-- Every call of a session decides on its own response, if what rejected responses leave behind is clean. -/
theorem session_decides (v : PtcVersion) (es : List Exchange) (hform : ∀ e ∈ es, e.WellFormed)
    (hfits : ∀ e ∈ es, e.Fits v)
    (hclean : es.IsChain fun e _ => e.response.returnCode ≠ 0 → Clean v e.payload) :
    List.Forall₂ Exchange.Decides es (session v [] es) := by
  have hrun : ∀ pending, (es ≠ [] → Clean v pending) → List.Forall₂ Exchange.Decides es (session v pending es) := by
    induction es with
    | nil => exact fun _ _ => List.Forall₂.nil
    | cons e es ih =>
      intro pending hpending
      obtain ⟨hdecides, hstream⟩ := answer_of_clean (hform e List.mem_cons_self) (hfits e List.mem_cons_self)
        (hpending (List.cons_ne_nil e es))
      refine List.Forall₂.cons hdecides (ih (fun q hq => hform q (List.mem_cons_of_mem e hq))
        (fun q hq => hfits q (List.mem_cons_of_mem e hq)) ?_ _ fun hne => ?_)
      · exact hclean.of_cons
      · rw [hstream]
        split_ifs with hcode
        · exact clean_nil v
        · obtain ⟨q, qs, rfl⟩ := List.exists_cons_of_ne_nil hne
          exact (List.isChain_cons_cons.mp hclean).1 hcode
  exact hrun [] fun _ => clean_nil v

def exampleRefused (refusal : List UInt8) : Exchange :=
  ⟨[], [], ⟨5, 1, refusal.length, 1, 0, 0, 0⟩, refusal⟩

def exampleAccepted : Exchange := ⟨[], [], exampleHeader, [7]⟩

theorem session_decides_refused : List.Forall₂ Exchange.Decides [exampleRefused [1], exampleAccepted]
    (session .v1 [] [exampleRefused [1], exampleAccepted]) := by
  have hclean : Clean .v1 [1] := by
    refine ⟨fun i hi => ?_, by decide⟩
    cases i <;> simp [PtcVersion.identifier0] at hi
  refine session_decides .v1 [exampleRefused [1], exampleAccepted] ?_ ?_ ?_
  · simp [exampleRefused, exampleAccepted, Exchange.WellFormed, exampleHeader]
  · simp [exampleRefused, exampleAccepted, Exchange.Fits, PtcVersion.headerSize]
  · simpa [exampleRefused] using hclean

/-- The payload of the refusal reads like the response to the next request. -/
theorem session_imitated : ¬List.Forall₂ Exchange.Decides
    [exampleRefused (exampleHeader.bytes .v1 ++ [9]), exampleAccepted]
    (session .v1 [] [exampleRefused (exampleHeader.bytes .v1 ++ [9]), exampleAccepted]) := by
  intro h
  obtain ⟨-, hsecond⟩ := List.forall₂_cons.mp h
  obtain ⟨hdecides, -⟩ := List.forall₂_cons.mp hsecond
  have hform : (exampleRefused (exampleHeader.bytes .v1 ++ [9])).WellFormed := ⟨rfl, by decide⟩
  have hfits : (exampleRefused (exampleHeader.bytes .v1 ++ [9])).Fits .v1 := by
    simp [exampleRefused, Exchange.Fits, PtcVersion.headerSize]
  obtain ⟨-, hstream⟩ := answer_of_clean hform hfits (clean_nil .v1)
  have hcode : (exampleRefused (exampleHeader.bytes .v1 ++ [9])).response.returnCode ≠ 0 :=
    show (1 : UInt8) ≠ 0 by decide
  rw [if_neg hcode] at hstream
  obtain ⟨k, hheader⟩ := receiveHeader_of_clean exampleHeader ([9] ++ (exampleHeader.bytes .v1 ++ [7])) [] 0
    (clean_nil .v1)
  obtain ⟨k', hquery⟩ := queryCommand_of_accepted [] [] (exampleHeader.bytes .v1 ++ [7]) (by decide) hheader rfl
    rfl (by decide)
  have hout : (exampleAccepted.answer .v1 (exampleHeader.bytes .v1 ++ [9])).byteStreamOut = [9] := by
    have happend : exampleHeader.bytes .v1 ++ [9] ++ (exampleHeader.bytes .v1 ++ [7]) =
        [] ++ (exampleHeader.bytes .v1 ++ ([9] ++ (exampleHeader.bytes .v1 ++ [7]))) := by
      rw [List.append_assoc, List.nil_append]
    show (queryCommand .v1 whole [] [] exampleHeader.cmd
      ⟨exampleHeader.bytes .v1 ++ [9] ++ (exampleHeader.bytes .v1 ++ [7]), 0⟩).byteStreamOut = [9]
    rw [happend, hquery]
    rfl
  have hown := (hdecides.mpr rfl).2
  rw [hstream] at hown
  exact absurd (hout.symm.trans hown) (by decide)

end HesaiSdk.Ptc
