import HesaiSdk.Ptc.Header

/-! `PtcClient::QueryCommand` on an open connection. -/

namespace HesaiSdk.Ptc

open Library.ByteLayout

structure Connection where
  stream : List UInt8
  calls : ℕ

/-- How many of `n` bytes asked for the `k`-th call of `Receive` gets, if there are so many. -/
abbrev Segmentation := ℕ → ℕ → ℕ

/-- `Receive(buf, n)`: between 1 and `n` bytes, or none where nothing comes any more. -/
def Connection.receive (cut : Segmentation) (n : ℕ) (c : Connection) : List UInt8 × Connection :=
  let size := min n (max 1 (cut c.calls n))
  (c.stream.take size, ⟨c.stream.drop size, c.calls + 1⟩)

/-- The loop over one received piece: from the first identifier pair on, if there is one. -/
def findHeader (v : PtcVersion) : List UInt8 → List UInt8
  | a :: b :: rest => if a = v.identifier0 ∧ b = v.identifier1 then a :: b :: rest else findHeader v (b :: rest)
  | _ => []

lemma length_drop_lt {stream : List UInt8} {size : ℕ} (h : stream.take size ≠ []) :
    (stream.drop size).length < stream.length := by
  rw [ne_eq, List.take_eq_nil_iff, not_or] at h
  have hpos := List.length_pos_iff.mpr h.2
  rw [List.length_drop]
  omega

def receiveHeader (v : PtcVersion) (cut : Segmentation) (buf : List UInt8) (c : Connection) :
    List UInt8 × Connection :=
  if v.headerSize ≤ buf.length then (buf, c)
  else
    let received := c.receive cut (v.headerSize - buf.length)
    if received.1 = [] then (buf, received.2)
    else if buf = [] then receiveHeader v cut (findHeader v received.1) received.2
    else receiveHeader v cut (buf ++ received.1) received.2
termination_by c.stream.length
decreasing_by
  · exact length_drop_lt ‹_›
  · exact length_drop_lt ‹_›

def receiveBody (cut : Segmentation) (left : ℕ) (body : List UInt8) (c : Connection) : ℕ × List UInt8 × Connection :=
  if left = 0 then (0, body, c)
  else
    let received := c.receive cut left
    if received.1 = [] then (left, body, received.2)
    else receiveBody cut (left - received.1.length) (body ++ received.1) received.2
termination_by c.stream.length
decreasing_by exact length_drop_lt ‹_›

structure Answer where
  ret : ℤ
  byteStreamOut : List UInt8
  connection : Connection

/-- The bytes that `Send` takes of an encoded request: its length is a `uint16_t`. -/
def sentLength (v : PtcVersion) (byteStreamIn : List UInt8) : ℕ := (v.headerSize + byteStreamIn.length) % 65536

def nPayLoadLen (v : PtcVersion) (buf : List UInt8) : ℤ := (payloadLenOf v buf : ℤ).bmod (2 ^ 32)

def queryCommand (v : PtcVersion) (cut : Segmentation) (byteStreamIn byteStreamOut : List UInt8) (u8Cmd : UInt8)
    (c : Connection) : Answer :=
  if sentLength v byteStreamIn ≠ v.headerSize + byteStreamIn.length then ⟨-1, byteStreamOut, c⟩
  else
    let header := receiveHeader v cut [] c
    if header.1.length < v.headerSize then ⟨-1, byteStreamOut, header.2⟩
    else if isValidReturnCode v header.1 = false ∨ cmdOf v header.1 ≠ u8Cmd then ⟨-1, byteStreamOut, header.2⟩
    else if 0 < nPayLoadLen v header.1 then
      let body := receiveBody cut (nPayLoadLen v header.1).toNat [] header.2
      if 0 < body.1 then ⟨-1, byteStreamOut, body.2.2⟩ else ⟨0, body.2.1, body.2.2⟩
    else ⟨0, byteStreamOut, header.2⟩

end HesaiSdk.Ptc
