import HesaiSdk.Ptc.QueryCommand

/-! A response against the pieces in which TCP delivers it. -/

namespace HesaiSdk.Ptc

variable {v : PtcVersion} {cut : Segmentation} {n : ℕ} {c : Connection} {buf body : List UInt8}

def pieceLength (cut : Segmentation) (k n : ℕ) : ℕ := min n (max 1 (cut k n))

lemma pieceLength_pos {k : ℕ} (hn : 0 < n) : 0 < pieceLength cut k n := by
  rw [pieceLength]
  omega

lemma pieceLength_le {k : ℕ} : pieceLength cut k n ≤ n := Nat.min_le_left _ _

lemma receive_eq : c.receive cut n = (c.stream.take (pieceLength cut c.calls n),
    ⟨c.stream.drop (pieceLength cut c.calls n), c.calls + 1⟩) := rfl

def scanned (v : PtcVersion) (cut : Segmentation) : ℕ → ℕ → ℕ
  | _, 0 => 0
  | k, j + 1 => pieceLength cut k v.headerSize + scanned v cut (k + 1) j

lemma length_piece {stream : List UInt8} {k : ℕ} (h : n ≤ stream.length) :
    (stream.take (pieceLength cut k n)).length = pieceLength cut k n := by
  rw [List.length_take]
  exact Nat.min_eq_left (pieceLength_le.trans h)

lemma piece_ne_nil {stream : List UInt8} {k : ℕ} (hn : 0 < n) (h : n ≤ stream.length) :
    stream.take (pieceLength cut k n) ≠ [] := by
  intro hnil
  have hlen : (stream.take (pieceLength cut k n)).length = pieceLength cut k n := length_piece h
  have hpos : 0 < pieceLength cut k n := pieceLength_pos hn
  rw [hnil, List.length_nil] at hlen
  omega

lemma receiveBody_of_le (cut : Segmentation) (left : ℕ) (body : List UInt8) (c : Connection)
    (h : left ≤ c.stream.length) : ∃ k,
    receiveBody cut left body c = (0, body ++ c.stream.take left, ⟨c.stream.drop left, k⟩) := by
  induction left using Nat.strong_induction_on generalizing body c with
  | _ left ih =>
    by_cases h0 : left = 0
    · refine ⟨c.calls, ?_⟩
      rw [receiveBody, if_pos h0, h0, List.take_zero, List.append_nil, List.drop_zero]
    · have hpos : 0 < pieceLength cut c.calls left := pieceLength_pos (Nat.pos_of_ne_zero h0)
      have hle : pieceLength cut c.calls left ≤ left := pieceLength_le
      have hrest : left - pieceLength cut c.calls left ≤ (c.stream.drop (pieceLength cut c.calls left)).length := by
        rw [List.length_drop]
        omega
      obtain ⟨k, hk⟩ := ih (left - pieceLength cut c.calls left) (by omega)
        (body ++ c.stream.take (pieceLength cut c.calls left))
        ⟨c.stream.drop (pieceLength cut c.calls left), c.calls + 1⟩ hrest
      refine ⟨k, ?_⟩
      rw [receiveBody, if_neg h0]
      simp only [receive_eq, if_neg (piece_ne_nil (Nat.pos_of_ne_zero h0) h), length_piece h]
      rw [hk, List.append_assoc, ← List.take_add, List.drop_drop, Nat.add_sub_cancel' hle]

lemma receiveHeader_of_found (v : PtcVersion) (cut : Segmentation) (buf : List UInt8) (c : Connection)
    (hfound : buf ≠ [])
    (hbuf : buf.length ≤ v.headerSize) (h : v.headerSize - buf.length ≤ c.stream.length) : ∃ k,
    receiveHeader v cut buf c = (buf ++ c.stream.take (v.headerSize - buf.length),
      ⟨c.stream.drop (v.headerSize - buf.length), k⟩) := by
  generalize hleft : v.headerSize - buf.length = left at h ⊢
  induction left using Nat.strong_induction_on generalizing buf c with
  | _ left ih =>
    by_cases h0 : left = 0
    · refine ⟨c.calls, ?_⟩
      rw [receiveHeader, if_pos (by omega), h0, List.take_zero, List.append_nil, List.drop_zero]
    · have hpos : 0 < pieceLength cut c.calls left := pieceLength_pos (Nat.pos_of_ne_zero h0)
      have hle : pieceLength cut c.calls left ≤ left := pieceLength_le
      have hlen : (c.stream.take (pieceLength cut c.calls left)).length = pieceLength cut c.calls left :=
        length_piece h
      have happend : (buf ++ c.stream.take (pieceLength cut c.calls left)).length =
          buf.length + pieceLength cut c.calls left := by
        rw [List.length_append, hlen]
      have hrest : left - pieceLength cut c.calls left ≤ (c.stream.drop (pieceLength cut c.calls left)).length := by
        rw [List.length_drop]
        omega
      obtain ⟨k, hk⟩ := ih (left - pieceLength cut c.calls left) (by omega)
        (buf ++ c.stream.take (pieceLength cut c.calls left))
        ⟨c.stream.drop (pieceLength cut c.calls left), c.calls + 1⟩ (by simp [hfound]) (by omega) (by omega) hrest
      refine ⟨k, ?_⟩
      rw [receiveHeader, if_neg (by omega), hleft]
      simp only [receive_eq, if_neg (piece_ne_nil (Nat.pos_of_ne_zero h0) h), if_neg hfound]
      rw [hk, List.append_assoc, ← List.take_add, List.drop_drop, Nat.add_sub_cancel' hle]

def NoPair (v : PtcVersion) (l : List UInt8) : Prop :=
  ∀ i : ℕ, l[i]? = some v.identifier0 → l[i + 1]? ≠ some v.identifier1

lemma NoPair.tail {a : UInt8} {l : List UInt8} (h : NoPair v (a :: l)) : NoPair v l := fun i hi => h (i + 1) hi

lemma NoPair.take {l : List UInt8} (h : NoPair v l) : NoPair v (l.take n) := by
  intro i hi hnext
  rw [List.getElem?_take] at hi hnext
  split_ifs at hi hnext
  exact h i hi hnext

lemma NoPair.drop {l : List UInt8} (h : NoPair v l) : NoPair v (l.drop n) := by
  intro i hi hnext
  rw [List.getElem?_drop] at hi hnext
  exact h (n + i) hi hnext

lemma NoPair.concat {l : List UInt8} (h : NoPair v l) : NoPair v (l ++ [v.identifier0]) := by
  intro i hi hnext
  rcases Nat.lt_or_ge (i + 1) l.length with hlt | hge
  · rw [List.getElem?_append_left (by omega)] at hi
    rw [List.getElem?_append_left hlt] at hnext
    exact h i hi hnext
  · rw [List.getElem?_append_right hge, List.getElem?_singleton] at hnext
    split_ifs at hnext
    exact v.identifier_ne (Option.some.inj hnext)

lemma noPair_of_garbage {pre l : List UInt8} (h : ∀ i < pre.length, (pre ++ l)[i]? = some v.identifier0 →
    (pre ++ l)[i + 1]? ≠ some v.identifier1) : NoPair v pre := by
  intro i hi hnext
  obtain ⟨hlt, -⟩ := List.getElem?_eq_some_iff.mp hi
  obtain ⟨hlt', -⟩ := List.getElem?_eq_some_iff.mp hnext
  exact h i hlt (by rw [List.getElem?_append_left hlt, hi]) (by rw [List.getElem?_append_left hlt', hnext])

lemma findHeader_eq_nil {l : List UInt8} (h : NoPair v l) : findHeader v l = [] := by
  induction l with
  | nil => rfl
  | cons a l ih =>
    cases l with
    | nil => rfl
    | cons b l =>
      rw [findHeader, if_neg fun hpair => h 0 (by simp [hpair.1]) (by simp [hpair.2])]
      exact ih h.tail

lemma findHeader_append {pre l : List UInt8} (h : NoPair v pre) :
    findHeader v (pre ++ v.identifier0 :: v.identifier1 :: l) = v.identifier0 :: v.identifier1 :: l := by
  induction pre with
  | nil => rw [List.nil_append, findHeader, if_pos ⟨rfl, rfl⟩]
  | cons a pre ih =>
    cases pre with
    | nil =>
      rw [List.singleton_append, findHeader, if_neg fun hpair => v.identifier_ne hpair.2]
      exact ih h.tail
    | cons b pre =>
      rw [List.cons_append, List.cons_append, findHeader,
        if_neg fun hpair => h 0 (by simp [hpair.1]) (by simp [hpair.2])]
      exact ih h.tail

lemma receiveHeader_skip {stream : List UInt8} {k : ℕ} (hne : stream ≠ [])
    (hpair : NoPair v (stream.take (pieceLength cut k v.headerSize))) :
    receiveHeader v cut [] ⟨stream, k⟩ =
      receiveHeader v cut [] ⟨stream.drop (pieceLength cut k v.headerSize), k + 1⟩ := by
  have hsize := v.headerSize_pos
  have hpos : 0 < pieceLength cut k v.headerSize := pieceLength_pos (by omega)
  have hpiece : stream.take (pieceLength cut k v.headerSize) ≠ [] := by
    rw [ne_eq, List.take_eq_nil_iff, not_or]
    exact ⟨hpos.ne', hne⟩
  rw [receiveHeader, if_neg (by rw [List.length_nil]; omega)]
  simp only [List.length_nil, Nat.sub_zero, receive_eq, if_neg hpiece, if_true, findHeader_eq_nil hpair]

/-- A piece of what stands before the header. -/
lemma receiveHeader_skip_append {pre tail : List UInt8} {k : ℕ} (htail : tail ≠ [])
    (hle : pieceLength cut k v.headerSize ≤ pre.length)
    (hpair : NoPair v (pre.take (pieceLength cut k v.headerSize))) :
    receiveHeader v cut [] ⟨pre ++ tail, k⟩ =
      receiveHeader v cut [] ⟨pre.drop (pieceLength cut k v.headerSize) ++ tail, k + 1⟩ := by
  have htake : (pre ++ tail).take (pieceLength cut k v.headerSize) = pre.take (pieceLength cut k v.headerSize) :=
    List.take_append_of_le_length hle
  rw [receiveHeader_skip (List.append_ne_nil_of_right_ne_nil _ htail) (htake ▸ hpair),
    List.drop_append_of_le_length hle]

lemma bytes_eq_cons (v : PtcVersion) (h : PtcHeader) : ∃ l, h.bytes v = v.identifier0 :: v.identifier1 :: l := by
  cases v <;> exact ⟨_, rfl⟩

lemma bytes_append_ne_nil (v : PtcVersion) (h : PtcHeader) (rest : List UInt8) : h.bytes v ++ rest ≠ [] := by
  obtain ⟨l, hl⟩ := bytes_eq_cons v h
  rw [hl]
  exact List.cons_ne_nil _ _

lemma receiveHeader_of_piece (h : PtcHeader) (rest pre : List UInt8) (k : ℕ) (hpre : NoPair v pre)
    (hpiece : pre.length + 2 ≤ pieceLength cut k v.headerSize) :
    ∃ k', receiveHeader v cut [] ⟨pre ++ (h.bytes v ++ rest), k⟩ = (h.bytes v, ⟨rest, k'⟩) := by
  obtain ⟨l, hl⟩ := bytes_eq_cons v h
  have hsize := v.headerSize_pos
  have hle : pieceLength cut k v.headerSize ≤ v.headerSize := pieceLength_le
  have hlen : (h.bytes v ++ rest).length = v.headerSize + rest.length := by
    rw [List.length_append, PtcHeader.length_bytes]
  generalize hd : pieceLength cut k v.headerSize - pre.length = d
  obtain ⟨m, rfl⟩ : ∃ m, d = m + 2 := ⟨d - 2, by omega⟩
  have htake : (pre ++ (h.bytes v ++ rest)).take (pieceLength cut k v.headerSize) =
      pre ++ (h.bytes v ++ rest).take (m + 2) := by
    rw [List.take_append, List.take_of_length_le (by omega), hd]
  have hdrop : (pre ++ (h.bytes v ++ rest)).drop (pieceLength cut k v.headerSize) =
      (h.bytes v ++ rest).drop (m + 2) := by
    rw [List.drop_append, List.drop_of_length_le (by omega), hd, List.nil_append]
  have hfind : findHeader v (pre ++ (h.bytes v ++ rest).take (m + 2)) = (h.bytes v ++ rest).take (m + 2) := by
    rw [hl]
    exact findHeader_append hpre
  have hbuf : ((h.bytes v ++ rest).take (m + 2)).length = m + 2 := by
    rw [List.length_take]
    omega
  have hne : (h.bytes v ++ rest).take (m + 2) ≠ [] := by
    intro hnil
    rw [hnil] at hbuf
    exact absurd hbuf (by simp)
  obtain ⟨k', hk⟩ := receiveHeader_of_found v cut ((h.bytes v ++ rest).take (m + 2))
    ⟨(h.bytes v ++ rest).drop (m + 2), k + 1⟩ hne (by omega) (by rw [hbuf, List.length_drop]; omega)
  refine ⟨k', ?_⟩
  rw [receiveHeader, if_neg (by rw [List.length_nil]; omega)]
  simp only [List.length_nil, Nat.sub_zero, receive_eq, htake, hdrop, hfind, if_true]
  rw [if_neg (by simp [hne]), hk, hbuf, ← List.take_add, List.drop_drop, Nat.add_sub_cancel' (by omega)]
  rw [← PtcHeader.length_bytes v h, List.take_left, List.drop_left]

lemma receiveHeader_of_uncut (h : PtcHeader) (rest pre : List UInt8) (k : ℕ) (hpre : NoPair v pre)
    (hcut : ∀ j, scanned v cut k j ≠ pre.length + 1) :
    ∃ k', receiveHeader v cut [] ⟨pre ++ (h.bytes v ++ rest), k⟩ = (h.bytes v, ⟨rest, k'⟩) := by
  generalize hl : pre.length = l
  induction l using Nat.strong_induction_on generalizing pre k with
  | _ l ih =>
    subst hl
    have hsize := v.headerSize_pos
    have hpos : 0 < pieceLength cut k v.headerSize := pieceLength_pos (by omega)
    rcases Nat.lt_or_ge pre.length (pieceLength cut k v.headerSize) with hlt | hge
    · refine receiveHeader_of_piece h rest pre k hpre ?_
      have hfirst : pieceLength cut k v.headerSize ≠ pre.length + 1 := hcut 1
      omega
    · rw [receiveHeader_skip_append (bytes_append_ne_nil v h rest) hge hpre.take]
      refine ih _ (by rw [List.length_drop]; omega) _ _ hpre.drop (fun j hj => hcut (j + 1) ?_) rfl
      rw [List.length_drop] at hj
      rw [scanned, hj]
      omega

/-- A piece that ends behind the first byte of a header: the scan goes on without that byte. -/
lemma receiveHeader_of_cut (v : PtcVersion) (cut : Segmentation) (rest pre : List UInt8) (k j : ℕ)
    (hpre : NoPair v pre)
    (hcut : scanned v cut k j = pre.length + 1) : ∃ k',
    receiveHeader v cut [] ⟨pre ++ v.identifier0 :: rest, k⟩ = receiveHeader v cut [] ⟨rest, k'⟩ := by
  induction j generalizing pre k with
  | zero => exact absurd hcut (Nat.succ_ne_zero _).symm
  | succ j ih =>
    rw [scanned] at hcut
    have hne : pre ++ v.identifier0 :: rest ≠ [] := by simp
    rcases Nat.lt_or_ge pre.length (pieceLength cut k v.headerSize) with hlt | hge
    · have hsize : pieceLength cut k v.headerSize = pre.length + 1 := by omega
      have hsplit : pre ++ v.identifier0 :: rest = (pre ++ [v.identifier0]) ++ rest := by simp
      have hlen : (pre ++ [v.identifier0]).length = pre.length + 1 := by simp
      refine ⟨k + 1, ?_⟩
      rw [receiveHeader_skip hne, hsize, hsplit, ← hlen, List.drop_left]
      rw [hsize, hsplit, ← hlen, List.take_left]
      exact hpre.concat
    · rw [receiveHeader_skip_append (List.cons_ne_nil _ _) hge hpre.take]
      refine ih _ _ hpre.drop ?_
      rw [List.length_drop]
      omega

lemma length_findHeader_le (l : List UInt8) : (findHeader v l).length ≤ l.length := by
  induction l with
  | nil => exact Nat.le_refl _
  | cons a l ih =>
    cases l with
    | nil => exact Nat.zero_le _
    | cons b l =>
      rw [findHeader]
      split_ifs
      · exact Nat.le_refl _
      · exact ih.trans (Nat.le_succ _)

lemma length_receive (n : ℕ) (c : Connection) :
    (c.receive cut n).1.length + (c.receive cut n).2.stream.length = c.stream.length := by
  rw [receive_eq, List.length_take, List.length_drop]
  omega

lemma length_receiveHeader_le (v : PtcVersion) (cut : Segmentation) (buf : List UInt8) (c : Connection) :
    (receiveHeader v cut buf c).1.length + (receiveHeader v cut buf c).2.stream.length ≤
      buf.length + c.stream.length := by
  fun_induction receiveHeader v cut buf c with
  | case1 buf c hdone => exact Nat.le_refl _
  | case2 buf c hmore received hnone =>
    have hreceive : received.1.length + received.2.stream.length = c.stream.length := length_receive _ c
    show buf.length + received.2.stream.length ≤ _
    omega
  | case3 c hmore received hsome ih =>
    have hreceive : received.1.length + received.2.stream.length = c.stream.length := length_receive _ c
    have hfind : (findHeader v received.1).length ≤ received.1.length := length_findHeader_le _
    omega
  | case4 buf c hmore received hsome hfound ih =>
    have hreceive : received.1.length + received.2.stream.length = c.stream.length := length_receive _ c
    rw [List.length_append] at ih
    omega

lemma length_receiveBody_le (cut : Segmentation) (left : ℕ) (body : List UInt8) (c : Connection) :
    (receiveBody cut left body c).2.1.length ≤ body.length + c.stream.length := by
  fun_induction receiveBody cut left body c with
  | case1 left c => exact Nat.le_add_right _ _
  | case2 left body c hmore received hnone => exact Nat.le_add_right _ _
  | case3 left body c hmore received hsome ih =>
    have hreceive : received.1.length + received.2.stream.length = c.stream.length := length_receive _ c
    rw [List.length_append] at ih
    omega

section Query

variable {payload rest : List UInt8} {h : PtcHeader} {k : ℕ}

lemma sentLength_eq_iff {byteStreamIn : List UInt8} : sentLength v byteStreamIn = v.headerSize + byteStreamIn.length ↔
    v.headerSize + byteStreamIn.length < 65536 := by
  rw [sentLength]
  omega

lemma bmod_of_lt {n : ℕ} (h : n < 2 ^ 31) : (n : ℤ).bmod (2 ^ 32) = n := by
  apply Int.bmod_eq_of_le_mul_two
  · norm_num
    omega
  · norm_num at h ⊢
    omega

lemma nPayLoadLen_bytes (hlen : h.payloadLen < 2 ^ 31) : nPayLoadLen v (h.bytes v) = h.payloadLen := by
  have hbytes : payloadLenOf v (h.bytes v) = h.payloadLen := payloadLenOf_bytes (by omega)
  have hmod : nPayLoadLen v (h.bytes v) = (h.payloadLen : ℤ).bmod (2 ^ 32) :=
    congrArg (fun n : ℕ => (n : ℤ).bmod (2 ^ 32)) hbytes
  exact hmod.trans (bmod_of_lt hlen)

lemma queryCommand_of_accepted (byteStreamIn byteStreamOut rest : List UInt8)
    (hsent : v.headerSize + byteStreamIn.length < 65536)
    (hheader : receiveHeader v cut [] c = (h.bytes v, ⟨payload ++ rest, k⟩)) (hcode : h.returnCode = 0)
    (hlen : h.payloadLen = payload.length) (hmax : payload.length < 2 ^ 31) : ∃ k',
    queryCommand v cut byteStreamIn byteStreamOut h.cmd c =
      ⟨0, if payload = [] then byteStreamOut else payload, ⟨rest, k'⟩⟩ := by
  have hvalid : ¬(isValidReturnCode v (h.bytes v) = false ∨ cmdOf v (h.bytes v) ≠ h.cmd) := by
    simp [isValidReturnCode, hcode]
  have hn : nPayLoadLen v (h.bytes v) = payload.length := by rw [nPayLoadLen_bytes (by omega), hlen]
  rw [queryCommand, if_neg (not_not.mpr (sentLength_eq_iff.mpr hsent)), hheader]
  simp only [PtcHeader.length_bytes, lt_irrefl, if_false, if_neg hvalid, hn, Int.toNat_natCast]
  by_cases hpayload : payload = []
  · refine ⟨k, ?_⟩
    rw [if_pos hpayload, hpayload, List.length_nil, if_neg (by decide), List.nil_append]
  · have hpos := List.length_pos_iff.mpr hpayload
    obtain ⟨k', hk⟩ := receiveBody_of_le cut payload.length [] ⟨payload ++ rest, k⟩ (by simp)
    refine ⟨k', ?_⟩
    rw [if_neg hpayload, if_pos (by omega), hk]
    simp

lemma queryCommand_of_rejected (byteStreamIn byteStreamOut : List UInt8)
    (hsent : v.headerSize + byteStreamIn.length < 65536)
    (hheader : receiveHeader v cut [] c = (h.bytes v, ⟨payload ++ rest, k⟩)) (hcode : h.returnCode ≠ 0) :
    queryCommand v cut byteStreamIn byteStreamOut h.cmd c = ⟨-1, byteStreamOut, ⟨payload ++ rest, k⟩⟩ := by
  have hvalid : isValidReturnCode v (h.bytes v) = false ∨ cmdOf v (h.bytes v) ≠ h.cmd := by
    simp [isValidReturnCode, hcode]
  rw [queryCommand, if_neg (not_not.mpr (sentLength_eq_iff.mpr hsent)), hheader]
  simp only [PtcHeader.length_bytes, lt_irrefl, if_false, if_pos hvalid]

lemma queryCommand_of_short {byteStreamIn : List UInt8} {u8Cmd : UInt8} {short : Connection} (hpayload : payload ≠ [])
    (hheader : receiveHeader v cut [] c = receiveHeader v cut [] short)
    (hshort : short.stream.length < v.headerSize + payload.length) :
    (queryCommand v cut byteStreamIn [] u8Cmd c).byteStreamOut ≠ payload := by
  have hle := length_receiveHeader_le v cut [] short
  rw [queryCommand, hheader]
  by_cases hsent : sentLength v byteStreamIn = v.headerSize + byteStreamIn.length
  · rw [if_neg (not_not.mpr hsent)]
    simp only
    split_ifs with hhead hvalid hpos hleft
    · exact hpayload.symm
    · exact hpayload.symm
    · exact hpayload.symm
    · intro heq
      have hbody := length_receiveBody_le cut (nPayLoadLen v (receiveHeader v cut [] short).1).toNat []
        (receiveHeader v cut [] short).2
      have hlen := congrArg List.length heq
      simp only [List.length_nil, Nat.zero_add] at hbody hle hlen
      omega
    · exact hpayload.symm
  · rw [if_pos hsent]
    exact hpayload.symm

end Query

/-- A response is received exactly if the request fits `Send` and no piece of the scan ends right behind
the first byte of its header. -/
theorem queryCommand_uncut_iff (v : PtcVersion) (cut : Segmentation) (byteStreamIn payload pre : List UInt8)
    (h : PtcHeader) (k : ℕ) (hcode : h.returnCode = 0) (hlen : h.payloadLen = payload.length)
    (hmin : 1 ≤ payload.length) (hmax : payload.length < 2 ^ 31)
    (hpre : ∀ i < pre.length, (pre ++ h.bytes v)[i]? = some v.identifier0 →
      (pre ++ h.bytes v)[i + 1]? ≠ some v.identifier1) :
    (∀ byteStreamOut,
      (queryCommand v cut byteStreamIn byteStreamOut h.cmd ⟨pre ++ (h.bytes v ++ payload), k⟩).ret = 0 ∧
      (queryCommand v cut byteStreamIn byteStreamOut h.cmd
        ⟨pre ++ (h.bytes v ++ payload), k⟩).byteStreamOut = payload) ↔
    v.headerSize + byteStreamIn.length < 65536 ∧ ∀ j, scanned v cut k j ≠ pre.length + 1 := by
  have hne : payload ≠ [] := List.length_pos_iff.mp hmin
  have hnopair : NoPair v pre := noPair_of_garbage hpre
  constructor
  · intro hall
    obtain ⟨hret, hout⟩ := hall []
    constructor
    · by_contra hlong
      rw [queryCommand, if_pos fun h => hlong (sentLength_eq_iff.mp h)] at hret
      exact absurd (show (-1 : ℤ) = 0 from hret) (by decide)
    · intro j hj
      obtain ⟨l, hl⟩ := bytes_eq_cons v h
      have hbytes := h.length_bytes v
      rw [hl, List.length_cons] at hbytes
      obtain ⟨k', hheader⟩ := receiveHeader_of_cut v cut (v.identifier1 :: (l ++ payload)) pre k j hnopair hj
      rw [hl] at hout
      refine queryCommand_of_short hne hheader ?_ hout
      simp only [List.length_cons, List.length_append] at hbytes ⊢
      omega
  · rintro ⟨hsent, hcut⟩ byteStreamOut
    obtain ⟨k', hheader⟩ := receiveHeader_of_uncut h (payload ++ []) pre k hnopair hcut
    rw [List.append_nil] at hheader
    obtain ⟨k'', hquery⟩ := queryCommand_of_accepted byteStreamIn byteStreamOut [] hsent
      (by rw [hheader, List.append_nil]) hcode hlen hmax
    rw [hquery, if_neg hne]
    exact ⟨rfl, rfl⟩

def exampleHeader : PtcHeader := ⟨5, 0, 1, 1, 0, 0, 0⟩

theorem queryCommand_uncut_whole :
    (queryCommand .v1 (fun _ n => n) [] [] 5 ⟨exampleHeader.bytes .v1 ++ [7], 0⟩).byteStreamOut = [7] := by
  have hcut : ∀ j, scanned .v1 (fun _ n => n) 0 j ≠ 1 := by
    intro j
    cases j with
    | zero => decide
    | succ j =>
      have hfirst : pieceLength (fun _ n => n) 0 PtcVersion.v1.headerSize = 8 := by decide
      rw [scanned, hfirst]
      omega
  exact ((queryCommand_uncut_iff .v1 (fun _ n => n) [] [7] [] exampleHeader 0 rfl rfl (by decide) (by decide)
    (by decide)).mpr ⟨by decide, hcut⟩ []).2

/-- The first piece is one byte. -/
theorem queryCommand_cut_lost : ¬∀ byteStreamOut,
    (queryCommand .v1 (fun _ _ => 1) [] byteStreamOut 5 ⟨exampleHeader.bytes .v1 ++ [7], 0⟩).ret = 0 ∧
      (queryCommand .v1 (fun _ _ => 1) [] byteStreamOut 5
        ⟨exampleHeader.bytes .v1 ++ [7], 0⟩).byteStreamOut = [7] := by
  intro h
  obtain ⟨k, hheader⟩ := receiveHeader_of_cut .v1 (fun _ _ => 1) [0x74, 5, 0, 0, 0, 0, 1, 7] [] 0 1
    (by intro i hi; simp at hi) (by decide)
  have hshort : (⟨[0x74, 5, 0, 0, 0, 0, 1, 7], k⟩ : Connection).stream.length <
      PtcVersion.v1.headerSize + [(7 : UInt8)].length := by
    simp [PtcVersion.headerSize]
  exact queryCommand_of_short (by decide) hheader hshort (h []).2

end HesaiSdk.Ptc
