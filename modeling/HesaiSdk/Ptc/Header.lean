import HesaiSdk.Library.ByteLayout

/-! The headers `PTCHeader_1_0` and `PTCHeader_2_0`. -/

namespace HesaiSdk.Ptc

open Library.ByteLayout

inductive PtcVersion where
  | v1
  | v2
deriving DecidableEq

namespace PtcVersion

def identifier0 : PtcVersion → UInt8
  | v1 => 0x47
  | v2 => 0x57

def identifier1 : PtcVersion → UInt8
  | v1 => 0x74
  | v2 => 0x75

def headerSize : PtcVersion → ℕ
  | v1 => 8
  | v2 => 12

lemma headerSize_pos (v : PtcVersion) : 2 ≤ v.headerSize := by
  cases v <;> decide

lemma identifier_ne (v : PtcVersion) : v.identifier0 ≠ v.identifier1 := by
  cases v <;> decide

end PtcVersion

/-- A header of either version; the last four fields are those that only the second has. -/
structure PtcHeader where
  cmd : UInt8
  returnCode : UInt8
  payloadLen : ℕ
  ptcVersion : UInt8
  reserved : UInt8
  integrityCheckType : UInt8
  integrityDataLength : UInt8

namespace PtcHeader

def bytes (v : PtcVersion) (h : PtcHeader) : List UInt8 :=
  match v with
  | .v1 => [v.identifier0, v.identifier1, h.cmd, h.returnCode] ++ beBytes 4 h.payloadLen
  | .v2 => [v.identifier0, v.identifier1, h.ptcVersion, h.cmd, h.returnCode, h.reserved, h.integrityCheckType,
      h.integrityDataLength] ++ beBytes 4 h.payloadLen

@[simp] lemma length_bytes (v : PtcVersion) (h : PtcHeader) : (h.bytes v).length = v.headerSize := by
  cases v <;> simp [bytes, PtcVersion.headerSize]

end PtcHeader

/-! The fields of a header in a buffer of `headerSize` bytes. -/

def isValidIdentifier (v : PtcVersion) (buf : List UInt8) : Bool :=
  buf.getD 0 0 == v.identifier0 && buf.getD 1 0 == v.identifier1

def cmdOf (v : PtcVersion) (buf : List UInt8) : UInt8 :=
  match v with
  | .v1 => buf.getD 2 0
  | .v2 => buf.getD 3 0

def returnCodeOf (v : PtcVersion) (buf : List UInt8) : UInt8 :=
  match v with
  | .v1 => buf.getD 3 0
  | .v2 => buf.getD 4 0

def isValidReturnCode (v : PtcVersion) (buf : List UInt8) : Bool :=
  isValidIdentifier v buf && returnCodeOf v buf == 0

/-- `GetPayloadLen()`, a `uint32_t` through `ntohl`. -/
def payloadLenOf (v : PtcVersion) (buf : List UInt8) : ℕ :=
  match v with
  | .v1 => beNat ((buf.drop 4).take 4)
  | .v2 => beNat ((buf.drop 8).take 4)

section Fields

variable {v : PtcVersion} {h : PtcHeader} {rest : List UInt8}

lemma isValidIdentifier_append : isValidIdentifier v (h.bytes v ++ rest) = true := by
  cases v <;> simp [isValidIdentifier, PtcHeader.bytes]

lemma cmdOf_append : cmdOf v (h.bytes v ++ rest) = h.cmd := by
  cases v <;> simp [cmdOf, PtcHeader.bytes]

lemma returnCodeOf_append : returnCodeOf v (h.bytes v ++ rest) = h.returnCode := by
  cases v <;> simp [returnCodeOf, PtcHeader.bytes]

lemma payloadLenOf_append (hlen : h.payloadLen < 2 ^ 32) : payloadLenOf v (h.bytes v ++ rest) = h.payloadLen := by
  have hbe : beNat (beBytes 4 h.payloadLen) = h.payloadLen := beNat_beBytes_of_lt hlen
  have htake : (beBytes 4 h.payloadLen ++ rest).take 4 = beBytes 4 h.payloadLen := List.take_left' (by simp)
  cases v <;> simpa [payloadLenOf, PtcHeader.bytes, htake] using hbe

@[simp] lemma isValidIdentifier_bytes : isValidIdentifier v (h.bytes v) = true := by
  rw [← List.append_nil (h.bytes v), isValidIdentifier_append]

@[simp] lemma cmdOf_bytes : cmdOf v (h.bytes v) = h.cmd := by
  rw [← List.append_nil (h.bytes v), cmdOf_append]

@[simp] lemma returnCodeOf_bytes : returnCodeOf v (h.bytes v) = h.returnCode := by
  rw [← List.append_nil (h.bytes v), returnCodeOf_append]

lemma payloadLenOf_bytes (hlen : h.payloadLen < 2 ^ 32) : payloadLenOf v (h.bytes v) = h.payloadLen := by
  rw [← List.append_nil (h.bytes v), payloadLenOf_append hlen]

end Fields

end HesaiSdk.Ptc
