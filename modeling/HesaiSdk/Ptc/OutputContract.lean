import HesaiSdk.Ptc.Segmentation

/-! What `QueryCommand` leaves in `byteStreamOut`. -/

namespace HesaiSdk.Ptc

open Library.ByteLayout

variable {v : PtcVersion} {cut : Segmentation} {stream : List UInt8} {k p : ℕ}

/-- An identifier pair that lies within one piece of the scan. -/
structure UncutPair (v : PtcVersion) (cut : Segmentation) (k : ℕ) (stream : List UInt8) (p : ℕ) : Prop where
  first : stream[p]? = some v.identifier0
  second : stream[p + 1]? = some v.identifier1
  uncut : ∀ j, scanned v cut k j ≠ p + 1

structure HeaderAt (v : PtcVersion) (cut : Segmentation) (k : ℕ) (stream : List UInt8) (p : ℕ) : Prop where
  pair : UncutPair v cut k stream p
  earliest : ∀ q < p, ¬UncutPair v cut k stream q

lemma scanned_of_lt {j : ℕ} (h : 0 < p) (hlt : p < pieceLength cut k v.headerSize) : scanned v cut k j ≠ p := by
  cases j with
  | zero => exact h.ne
  | succ j =>
    rw [scanned]
    omega

lemma uncutPair_drop : UncutPair v cut (k + 1) (stream.drop (pieceLength cut k v.headerSize)) p ↔
    UncutPair v cut k stream (pieceLength cut k v.headerSize + p) := by
  constructor
  · rintro ⟨hfirst, hsecond, huncut⟩
    refine ⟨by rwa [List.getElem?_drop] at hfirst, by rwa [List.getElem?_drop, ← Nat.add_assoc] at hsecond, ?_⟩
    intro j hj
    cases j with
    | zero => exact absurd hj (by rw [scanned]; omega)
    | succ j =>
      rw [scanned] at hj
      exact huncut j (by omega)
  · rintro ⟨hfirst, hsecond, huncut⟩
    refine ⟨by rwa [List.getElem?_drop], by rwa [List.getElem?_drop, ← Nat.add_assoc], ?_⟩
    intro j hj
    refine huncut (j + 1) ?_
    rw [scanned]
    omega

lemma noPair_take (h : ∀ q, q + 2 ≤ pieceLength cut k v.headerSize → ¬UncutPair v cut k stream q) :
    NoPair v (stream.take (pieceLength cut k v.headerSize)) := by
  intro i hi hnext
  rw [List.getElem?_take] at hi hnext
  split_ifs at hi hnext with hlt hlt'
  exact h i (by omega) ⟨hi, hnext, fun j => scanned_of_lt (Nat.succ_pos i) hlt'⟩

lemma HeaderAt.drop (h : HeaderAt v cut k stream p) (hp : pieceLength cut k v.headerSize ≤ p) :
    HeaderAt v cut (k + 1) (stream.drop (pieceLength cut k v.headerSize)) (p - pieceLength cut k v.headerSize) := by
  constructor
  · rw [uncutPair_drop, Nat.add_sub_cancel' hp]
    exact h.pair
  · intro q hq hpair
    exact h.earliest _ (by omega) (uncutPair_drop.mp hpair)

lemma HeaderAt.length_lt (h : HeaderAt v cut k stream p) : p + 1 < stream.length := by
  obtain ⟨hlt, -⟩ := List.getElem?_eq_some_iff.mp h.pair.second
  exact hlt

lemma HeaderAt.unique {q : ℕ} (h : HeaderAt v cut k stream p) (h' : HeaderAt v cut k stream q) : p = q := by
  apply le_antisymm
  · exact Nat.le_of_not_lt fun hlt => h.earliest q hlt h'.pair
  · exact Nat.le_of_not_lt fun hlt => h'.earliest p hlt h.pair

lemma exists_headerAt (h : UncutPair v cut k stream p) : ∃ q, HeaderAt v cut k stream q := by
  induction p using Nat.strong_induction_on with
  | _ p ih =>
    by_cases hearlier : ∃ q < p, UncutPair v cut k stream q
    · obtain ⟨q, hlt, hq⟩ := hearlier
      exact ih q hlt hq
    · exact ⟨p, h, fun q hlt hq => hearlier ⟨q, hlt, hq⟩⟩

lemma findHeader_of_headerAt (h : HeaderAt v cut k stream p) (hp : p + 2 ≤ pieceLength cut k v.headerSize) :
    findHeader v (stream.take (pieceLength cut k v.headerSize)) =
      (stream.drop p).take (pieceLength cut k v.headerSize - p) := by
  obtain ⟨hlt, hfirst⟩ := List.getElem?_eq_some_iff.mp h.pair.first
  obtain ⟨hlt', hsecond⟩ := List.getElem?_eq_some_iff.mp h.pair.second
  obtain ⟨m, hm⟩ : ∃ m, pieceLength cut k v.headerSize = p + (m + 2) :=
    ⟨pieceLength cut k v.headerSize - p - 2, by omega⟩
  have htail : (stream.drop p).take (m + 2) =
      v.identifier0 :: v.identifier1 :: (stream.drop (p + 2)).take m := by
    rw [List.drop_eq_getElem_cons hlt, List.drop_eq_getElem_cons hlt', hfirst, hsecond]
    rfl
  have hnopair : NoPair v (stream.take p) := by
    intro i hi hnext
    rw [List.getElem?_take] at hi hnext
    split_ifs at hi hnext with hip hip'
    exact h.earliest i hip ⟨hi, hnext, fun j => scanned_of_lt (Nat.succ_pos i) (by omega)⟩
  rw [hm, Nat.add_sub_cancel_left, List.take_add, htail]
  exact findHeader_append hnopair

/-- The scan reaches a header with at least its identifiers, and at most its own bytes, in the buffer. -/
lemma receiveHeader_of_headerAt (h : HeaderAt v cut k stream p) : ∃ d k', 2 ≤ d ∧ d ≤ v.headerSize ∧
    receiveHeader v cut [] ⟨stream, k⟩ =
      receiveHeader v cut ((stream.drop p).take d) ⟨stream.drop (p + d), k'⟩ := by
  -- a piece without the pair is skipped, and the header lies nearer behind it
  induction p using Nat.strong_induction_on generalizing stream k with
  | _ p ih =>
    have hsize := v.headerSize_pos
    have hlength := h.length_lt
    have hpos : 0 < pieceLength cut k v.headerSize := pieceLength_pos (by omega)
    have hle : pieceLength cut k v.headerSize ≤ v.headerSize := pieceLength_le
    have hne : stream ≠ [] := by
      rintro rfl
      exact absurd hlength (Nat.not_lt_zero _)
    by_cases hp : p + 2 ≤ pieceLength cut k v.headerSize
    · refine ⟨pieceLength cut k v.headerSize - p, k + 1, by omega, by omega, ?_⟩
      have hpiece : stream.take (pieceLength cut k v.headerSize) ≠ [] := by
        rw [ne_eq, List.take_eq_nil_iff, not_or]
        exact ⟨hpos.ne', hne⟩
      rw [receiveHeader, if_neg (by rw [List.length_nil]; omega)]
      simp only [List.length_nil, Nat.sub_zero, receive_eq, if_neg hpiece, if_true]
      rw [findHeader_of_headerAt h hp, Nat.add_sub_cancel' (by omega)]
    · have huncut : pieceLength cut k v.headerSize ≠ p + 1 := h.pair.uncut 1
      have hbehind : pieceLength cut k v.headerSize ≤ p := by omega
      have hnopair : NoPair v (stream.take (pieceLength cut k v.headerSize)) :=
        noPair_take fun q hq => h.earliest q (by omega)
      obtain ⟨d, k', hd, hd', heq⟩ := ih _ (by omega) (h.drop hbehind)
      refine ⟨d, k', hd, hd', ?_⟩
      rw [receiveHeader_skip hne hnopair, heq, List.drop_drop, List.drop_drop, Nat.add_sub_cancel' hbehind,
        ← Nat.add_assoc, Nat.add_sub_cancel' hbehind]

lemma receiveHeader_of_whole (h : HeaderAt v cut k stream p) (hwhole : p + v.headerSize ≤ stream.length) : ∃ k',
    receiveHeader v cut [] ⟨stream, k⟩ =
      ((stream.drop p).take v.headerSize, ⟨stream.drop (p + v.headerSize), k'⟩) := by
  obtain ⟨d, k', hd, hle, heq⟩ := receiveHeader_of_headerAt h
  have hlen : ((stream.drop p).take d).length = d := by
    rw [List.length_take, List.length_drop]
    omega
  have hne : (stream.drop p).take d ≠ [] := by
    intro hnil
    rw [hnil, List.length_nil] at hlen
    omega
  obtain ⟨k'', hfound⟩ := receiveHeader_of_found v cut _ ⟨stream.drop (p + d), k'⟩ hne (by omega)
    (by rw [hlen, List.length_drop]; omega)
  refine ⟨k'', ?_⟩
  rw [heq, hfound, hlen, ← List.drop_drop, ← List.take_add, List.drop_drop, List.drop_drop,
    Nat.add_sub_cancel' hle]

lemma receiveHeader_of_none (h : ∀ q, ¬UncutPair v cut k stream q) :
    (receiveHeader v cut [] ⟨stream, k⟩).1 = [] := by
  generalize hlen : stream.length = n
  induction n using Nat.strong_induction_on generalizing stream k with
  | _ n ih =>
    have hsize := v.headerSize_pos
    have hpos : 0 < pieceLength cut k v.headerSize := pieceLength_pos (by omega)
    cases stream with
    | nil =>
      rw [receiveHeader, if_neg (by rw [List.length_nil]; omega)]
      simp only [receive_eq, List.take_nil, if_true]
    | cons a rest =>
      rw [receiveHeader_skip (List.cons_ne_nil a rest) (noPair_take fun q _ => h q)]
      apply ih _ ?_ ?_ rfl
      · rw [List.length_drop, ← hlen, List.length_cons]
        omega
      · intro q hq
        exact h _ (uncutPair_drop.mp hq)

lemma exists_whole_of_headerSize_le (h : v.headerSize ≤ (receiveHeader v cut [] ⟨stream, k⟩).1.length) :
    ∃ p, HeaderAt v cut k stream p ∧ p + v.headerSize ≤ stream.length := by
  have hsize := v.headerSize_pos
  by_cases hpair : ∃ q, UncutPair v cut k stream q
  · obtain ⟨q, hq⟩ := hpair
    obtain ⟨p, hp⟩ := exists_headerAt hq
    refine ⟨p, hp, ?_⟩
    obtain ⟨d, k', -, -, heq⟩ := receiveHeader_of_headerAt hp
    have hlt := hp.length_lt
    have hle := length_receiveHeader_le v cut ((stream.drop p).take d) ⟨stream.drop (p + d), k'⟩
    rw [← heq, List.length_take, List.length_drop, List.length_drop] at hle
    omega
  · rw [receiveHeader_of_none fun q hq => hpair ⟨q, hq⟩, List.length_nil] at h
    omega

def announced (v : PtcVersion) (stream : List UInt8) (p : ℕ) : ℕ :=
  payloadLenOf v ((stream.drop p).take v.headerSize)

lemma announced_lt : announced v stream p < 2 ^ 32 := by
  have hbytes (bytes : List UInt8) (n : ℕ) : beNat ((bytes.drop n).take 4) < 2 ^ 32 := by
    have hlt := leNat_lt ((bytes.drop n).take 4).reverse
    have hlen : ((bytes.drop n).take 4).reverse.length ≤ 4 := by
      rw [List.length_reverse]
      exact List.length_take_le 4 _
    exact hlt.trans_le (Nat.pow_le_pow_right (by norm_num) hlen)
  cases v with
  | v1 => exact hbytes _ 4
  | v2 => exact hbytes _ 8

structure Accepts (v : PtcVersion) (cut : Segmentation) (byteStreamIn : List UInt8) (u8Cmd : UInt8) (k : ℕ)
    (stream : List UInt8) (p : ℕ) : Prop where
  sent : v.headerSize + byteStreamIn.length < 65536
  header : HeaderAt v cut k stream p
  whole : p + v.headerSize ≤ stream.length
  code : isValidReturnCode v ((stream.drop p).take v.headerSize) = true
  cmd : cmdOf v ((stream.drop p).take v.headerSize) = u8Cmd

/-- Success hands over the announced bytes, received behind the header; a failure hands over nothing. -/
def OutputContract (v : PtcVersion) (cut : Segmentation) (byteStreamIn byteStreamOut : List UInt8) (u8Cmd : UInt8)
    (k : ℕ) (stream : List UInt8) : Prop :=
  ((queryCommand v cut byteStreamIn byteStreamOut u8Cmd ⟨stream, k⟩).ret = 0 → ∃ p,
    Accepts v cut byteStreamIn u8Cmd k stream p ∧
    p + v.headerSize + announced v stream p ≤ stream.length ∧
    (queryCommand v cut byteStreamIn byteStreamOut u8Cmd ⟨stream, k⟩).byteStreamOut =
      (stream.drop (p + v.headerSize)).take (announced v stream p) ∧
    (queryCommand v cut byteStreamIn byteStreamOut u8Cmd ⟨stream, k⟩).connection.stream =
      stream.drop (p + v.headerSize + announced v stream p)) ∧
  ((queryCommand v cut byteStreamIn byteStreamOut u8Cmd ⟨stream, k⟩).ret = -1 →
    (queryCommand v cut byteStreamIn byteStreamOut u8Cmd ⟨stream, k⟩).byteStreamOut = byteStreamOut)

section Answers

variable {byteStreamIn : List UInt8} (byteStreamOut : List UInt8) {u8Cmd : UInt8}

lemma receiveBody_of_short (cut : Segmentation) (left : ℕ) (body : List UInt8) (c : Connection)
    (h : c.stream.length < left) : 0 < (receiveBody cut left body c).1 := by
  fun_induction receiveBody cut left body c with
  | case1 body c => exact absurd h (Nat.not_lt_zero _)
  | case2 left body c hmore received hnone => exact Nat.pos_of_ne_zero hmore
  | case3 left body c hmore received hsome ih =>
    apply ih
    have hreceive : received.1.length + received.2.stream.length = c.stream.length := length_receive _ c
    have hle : received.1.length ≤ c.stream.length := by omega
    omega

lemma queryCommand_of_not_accepts (h : ∀ p, ¬Accepts v cut byteStreamIn u8Cmd k stream p) :
    (queryCommand v cut byteStreamIn byteStreamOut u8Cmd ⟨stream, k⟩).ret = -1 ∧
      (queryCommand v cut byteStreamIn byteStreamOut u8Cmd ⟨stream, k⟩).byteStreamOut = byteStreamOut := by
  rw [queryCommand]
  by_cases hsent : sentLength v byteStreamIn = v.headerSize + byteStreamIn.length
  · rw [if_neg (not_not.mpr hsent)]
    dsimp only
    by_cases hhead : (receiveHeader v cut [] ⟨stream, k⟩).1.length < v.headerSize
    · rw [if_pos hhead]
      exact ⟨rfl, rfl⟩
    · obtain ⟨p, hp, hwhole⟩ := exists_whole_of_headerSize_le (Nat.le_of_not_lt hhead)
      obtain ⟨k', hheader⟩ := receiveHeader_of_whole hp hwhole
      rw [if_neg hhead, hheader]
      dsimp only
      have hvalid : isValidReturnCode v ((stream.drop p).take v.headerSize) = false ∨
          cmdOf v ((stream.drop p).take v.headerSize) ≠ u8Cmd := by
        by_contra hboth
        rw [not_or, Bool.not_eq_false, not_not] at hboth
        exact h p ⟨sentLength_eq_iff.mp hsent, hp, hwhole, hboth.1, hboth.2⟩
      rw [if_pos hvalid]
      exact ⟨rfl, rfl⟩
  · rw [if_pos hsent]
    exact ⟨rfl, rfl⟩

lemma queryCommand_of_accepts (h : Accepts v cut byteStreamIn u8Cmd k stream p) : ∃ k',
    queryCommand v cut byteStreamIn byteStreamOut u8Cmd ⟨stream, k⟩ =
      if 0 < (announced v stream p : ℤ).bmod (2 ^ 32) then
        let body := receiveBody cut ((announced v stream p : ℤ).bmod (2 ^ 32)).toNat []
          ⟨stream.drop (p + v.headerSize), k'⟩
        if 0 < body.1 then ⟨-1, byteStreamOut, body.2.2⟩ else ⟨0, body.2.1, body.2.2⟩
      else ⟨0, byteStreamOut, ⟨stream.drop (p + v.headerSize), k'⟩⟩ := by
  obtain ⟨k', hheader⟩ := receiveHeader_of_whole h.header h.whole
  have hlen : ((stream.drop p).take v.headerSize).length = v.headerSize := by
    have hwhole := h.whole
    rw [List.length_take, List.length_drop]
    omega
  have hvalid : ¬(isValidReturnCode v ((stream.drop p).take v.headerSize) = false ∨
      cmdOf v ((stream.drop p).take v.headerSize) ≠ u8Cmd) := by
    rw [h.code, h.cmd]
    simp
  refine ⟨k', ?_⟩
  rw [queryCommand, if_neg (not_not.mpr (sentLength_eq_iff.mpr h.sent)), hheader]
  dsimp only
  rw [hlen, if_neg (lt_irrefl _), if_neg hvalid]
  rfl

lemma not_pos_bmod {n : ℕ} (h : 2 ^ 31 ≤ n) (hn : n < 2 ^ 32) : ¬0 < (n : ℤ).bmod (2 ^ 32) := by
  rw [Int.bmod_def]
  norm_num at h hn ⊢
  omega

lemma queryCommand_of_unreceived (h : Accepts v cut byteStreamIn u8Cmd k stream p)
    (hlen : announced v stream p = 0 ∨ 2 ^ 31 ≤ announced v stream p) : ∃ k',
    queryCommand v cut byteStreamIn byteStreamOut u8Cmd ⟨stream, k⟩ =
      ⟨0, byteStreamOut, ⟨stream.drop (p + v.headerSize), k'⟩⟩ := by
  obtain ⟨k', hquery⟩ := queryCommand_of_accepts byteStreamOut h
  have hnone : ¬0 < (announced v stream p : ℤ).bmod (2 ^ 32) := by
    cases hlen with
    | inl hzero => simp [hzero]
    | inr hlarge => exact not_pos_bmod hlarge announced_lt
  exact ⟨k', by rw [hquery, if_neg hnone]⟩

lemma outputContract_of_received (h : Accepts v cut byteStreamIn u8Cmd k stream p)
    (hpos : 0 < announced v stream p) (hmax : announced v stream p < 2 ^ 31) :
    OutputContract v cut byteStreamIn byteStreamOut u8Cmd k stream := by
  obtain ⟨k', hquery⟩ := queryCommand_of_accepts byteStreamOut h
  rw [bmod_of_lt hmax, if_pos (by exact_mod_cast hpos), Int.toNat_natCast] at hquery
  have hwhole := h.whole
  have hdrop : (stream.drop (p + v.headerSize)).length = stream.length - (p + v.headerSize) := List.length_drop
  by_cases hall : announced v stream p ≤ (stream.drop (p + v.headerSize)).length
  · obtain ⟨k'', hbody⟩ := receiveBody_of_le cut (announced v stream p) [] ⟨stream.drop (p + v.headerSize), k'⟩ hall
    dsimp only at hquery
    rw [hbody, if_neg (lt_irrefl 0)] at hquery
    constructor
    · intro _
      refine ⟨p, h, by omega, ?_, ?_⟩
      · rw [hquery]
        exact List.nil_append _
      · rw [hquery]
        exact List.drop_drop
    · intro hret
      rw [hquery] at hret
      exact absurd hret (by norm_num)
  · have hshort := receiveBody_of_short cut (announced v stream p) [] ⟨stream.drop (p + v.headerSize), k'⟩
      (Nat.lt_of_not_le hall)
    dsimp only at hquery
    rw [if_pos hshort] at hquery
    constructor
    · intro hret
      rw [hquery] at hret
      exact absurd hret (by norm_num)
    · intro _
      rw [hquery]

lemma not_outputContract_of_unreceived (h : Accepts v cut byteStreamIn u8Cmd k stream p)
    (hbad : announced v stream p = 0 ∧ byteStreamOut ≠ [] ∨ 2 ^ 31 ≤ announced v stream p) :
    ¬OutputContract v cut byteStreamIn byteStreamOut u8Cmd k stream := by
  obtain ⟨k', hquery⟩ := queryCommand_of_unreceived byteStreamOut h (hbad.imp_left And.left)
  rintro ⟨hsuccess, -⟩
  rw [hquery] at hsuccess
  obtain ⟨q, hq, hle, hout, hrest⟩ := hsuccess rfl
  obtain rfl : q = p := hq.header.unique h.header
  cases hbad with
  | inl hzero =>
    rw [hzero.1, List.take_zero] at hout
    exact hzero.2 hout
  | inr hlarge =>
    have hlen := congrArg List.length hrest
    dsimp only at hlen
    rw [List.length_drop, List.length_drop] at hlen
    omega

end Answers

/-- The contract fails where nothing is received although the header is accepted: at the length 0 with an old
output, and at the lengths that are negative as `int`. -/
theorem outputContract_iff (v : PtcVersion) (cut : Segmentation) (byteStreamIn byteStreamOut : List UInt8)
    (u8Cmd : UInt8) (k : ℕ) (stream : List UInt8) :
    OutputContract v cut byteStreamIn byteStreamOut u8Cmd k stream ↔
      ∀ p, Accepts v cut byteStreamIn u8Cmd k stream p →
        announced v stream p < 2 ^ 31 ∧ (announced v stream p = 0 → byteStreamOut = []) := by
  constructor
  · intro hcontract p hp
    constructor
    · by_contra hlarge
      exact not_outputContract_of_unreceived byteStreamOut hp (Or.inr (Nat.le_of_not_lt hlarge)) hcontract
    · intro hzero
      by_contra hold
      exact not_outputContract_of_unreceived byteStreamOut hp (Or.inl ⟨hzero, hold⟩) hcontract
  · intro hall
    by_cases haccepts : ∃ p, Accepts v cut byteStreamIn u8Cmd k stream p
    · obtain ⟨p, hp⟩ := haccepts
      obtain ⟨hmax, hempty⟩ := hall p hp
      rcases Nat.eq_zero_or_pos (announced v stream p) with hzero | hpos
      · obtain ⟨k', hquery⟩ := queryCommand_of_unreceived byteStreamOut hp (Or.inl hzero)
        have hwhole := hp.whole
        rw [OutputContract, hquery]
        constructor
        · intro _
          refine ⟨p, hp, by omega, ?_, ?_⟩
          · rw [hzero, List.take_zero, hempty hzero]
          · rw [hzero, Nat.add_zero]
        · intro hret
          exact absurd hret (by norm_num)
      · exact outputContract_of_received byteStreamOut hp hpos hmax
    · obtain ⟨hret, hout⟩ := queryCommand_of_not_accepts byteStreamOut
        fun p hp => haccepts ⟨p, hp⟩
      constructor
      · intro hzero
        rw [hret] at hzero
        exact absurd hzero (by norm_num)
      · intro _
        exact hout

/-- An answer without a payload leaves the 9 of an earlier call in place. -/
theorem outputContract_fails_on_empty_payload :
    ¬OutputContract .v1 (fun _ n => n) [] [9] 5 0 [0x47, 0x74, 5, 0, 0, 0, 0, 0] := by
  have hfirst : pieceLength (fun _ n => n) 0 PtcVersion.v1.headerSize = 8 := by decide
  have hpair : UncutPair .v1 (fun _ n => n) 0 [0x47, 0x74, 5, 0, 0, 0, 0, 0] 0 :=
    ⟨rfl, rfl, fun j => scanned_of_lt Nat.one_pos (by rw [hfirst]; norm_num)⟩
  have haccepts : Accepts .v1 (fun _ n => n) [] 5 0 [0x47, 0x74, 5, 0, 0, 0, 0, 0] 0 :=
    ⟨by decide, ⟨hpair, fun q hq => absurd hq (Nat.not_lt_zero q)⟩, by decide, by decide, by decide⟩
  exact not_outputContract_of_unreceived [9] haccepts (Or.inl ⟨by decide, by decide⟩)

end HesaiSdk.Ptc
