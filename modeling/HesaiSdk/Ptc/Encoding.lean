import HesaiSdk.Ptc.Segmentation

/-! `PtcStreamEncode` and `PtcClient::IsValidRsp`. -/

namespace HesaiSdk.Ptc

open Library.ByteLayout

/-- `init(cmd)` with `SetPayloadLen`, whose argument is a `uint32_t`. -/
def PtcHeader.init (u8Cmd : UInt8) (payloadLen : ℕ) : PtcHeader where
  cmd := u8Cmd
  returnCode := 0
  payloadLen := payloadLen % 2 ^ 32
  ptcVersion := 1
  reserved := 0
  integrityCheckType := 0
  integrityDataLength := 0

def ptcStreamEncode (v : PtcVersion) (payload : List UInt8) (u8Cmd : UInt8) : List UInt8 :=
  (PtcHeader.init u8Cmd payload.length).bytes v ++ payload

/-- The loop that erases the first byte until an identifier pair is in front. -/
def resynchronise (v : PtcVersion) : List UInt8 → List UInt8
  | a :: b :: rest =>
    if a ≠ v.identifier0 ∨ b ≠ v.identifier1 then resynchronise v (b :: rest) else a :: b :: rest
  | stream => stream

/-- The answer, and the stream as the call leaves it. -/
def isValidRsp (v : PtcVersion) (byteStreamIn : List UInt8) : Bool × List UInt8 :=
  let stream := resynchronise v byteStreamIn
  (decide (v.headerSize ≤ stream.length) && isValidReturnCode v stream, stream)

lemma resynchronise_of_findHeader {v : PtcVersion} {stream : List UInt8} (h : findHeader v stream ≠ []) :
    resynchronise v stream = findHeader v stream := by
  induction stream with
  | nil => exact absurd rfl h
  | cons a stream ih =>
    cases stream with
    | nil => exact absurd rfl h
    | cons b rest =>
      rw [findHeader] at h ⊢
      rw [resynchronise]
      by_cases hpair : a = v.identifier0 ∧ b = v.identifier1
      · rw [if_pos hpair, if_neg (by simp [hpair.1, hpair.2])]
      · rw [if_neg hpair] at h ⊢
        rw [if_pos (not_and_or.mp hpair), ih h]

lemma resynchronise_append {v : PtcVersion} {garbage : List UInt8} (h : PtcHeader) (rest : List UInt8)
    (hgarbage : NoPair v garbage) : resynchronise v (garbage ++ (h.bytes v ++ rest)) = h.bytes v ++ rest := by
  obtain ⟨l, hl⟩ := bytes_eq_cons v h
  have hfind : findHeader v (garbage ++ (h.bytes v ++ rest)) = h.bytes v ++ rest := by
    rw [hl]
    exact findHeader_append hgarbage
  rw [resynchronise_of_findHeader (hfind.trans_ne (bytes_append_ne_nil v h rest)), hfind]

/-- What is encoded is found again behind any garbage without an identifier pair, and read back. -/
theorem isValidRsp_ptcStreamEncode (v : PtcVersion) (garbage payload : List UInt8) (u8Cmd : UInt8)
    (hlen : payload.length < 2 ^ 32)
    (hgarbage : ∀ i < garbage.length,
      (garbage ++ ptcStreamEncode v payload u8Cmd)[i]? = some v.identifier0 →
      (garbage ++ ptcStreamEncode v payload u8Cmd)[i + 1]? ≠ some v.identifier1) :
    isValidRsp v (garbage ++ ptcStreamEncode v payload u8Cmd) = (true, ptcStreamEncode v payload u8Cmd) ∧
    cmdOf v (ptcStreamEncode v payload u8Cmd) = u8Cmd ∧
    returnCodeOf v (ptcStreamEncode v payload u8Cmd) = 0 ∧
    payloadLenOf v (ptcStreamEncode v payload u8Cmd) = payload.length ∧
    (ptcStreamEncode v payload u8Cmd).drop v.headerSize = payload := by
  have hsync : resynchronise v (garbage ++ ptcStreamEncode v payload u8Cmd) = ptcStreamEncode v payload u8Cmd :=
    resynchronise_append _ payload (noPair_of_garbage hgarbage)
  have hsize : v.headerSize ≤ (ptcStreamEncode v payload u8Cmd).length := by
    rw [ptcStreamEncode, List.length_append, PtcHeader.length_bytes]
    exact Nat.le_add_right _ _
  have hcode : returnCodeOf v (ptcStreamEncode v payload u8Cmd) = 0 := returnCodeOf_append
  have hvalid : isValidReturnCode v (ptcStreamEncode v payload u8Cmd) = true := by
    have hid : isValidIdentifier v (ptcStreamEncode v payload u8Cmd) = true := isValidIdentifier_append
    rw [isValidReturnCode, hid, hcode]
    rfl
  have hinit : (PtcHeader.init u8Cmd payload.length).payloadLen = payload.length := Nat.mod_eq_of_lt hlen
  refine ⟨?_, cmdOf_append, hcode, ?_, ?_⟩
  · rw [isValidRsp, hsync, hvalid, decide_eq_true hsize]
    rfl
  · rw [ptcStreamEncode, payloadLenOf_append (hinit.trans_lt hlen), hinit]
  · rw [ptcStreamEncode, ← PtcHeader.length_bytes v (PtcHeader.init u8Cmd payload.length), List.drop_left]

theorem isValidRsp_behind_half_pair :
    isValidRsp .v1 ([0x74, 0x47] ++ ptcStreamEncode .v1 [1, 2] 5) = (true, ptcStreamEncode .v1 [1, 2] 5) :=
  (isValidRsp_ptcStreamEncode .v1 [0x74, 0x47] [1, 2] 5 (by decide) (by decide)).1

end HesaiSdk.Ptc
