import HesaiSdk.Source.PcapSource

namespace HesaiSdk.Source

open Library.ByteLayout Lidar

/-- The bytes of a file behind its header that are played to the end: records, where a record header that
announces more than is left counts as a record of its own. -/
inductive Playable : List UInt8 → Prop where
  | nil : Playable []
  | record (r : PcapRecord) {body rest : List UInt8} (hbody : body.length = r.inclLen.toNat)
      (hrest : Playable rest) : Playable (r.bytes ++ (body ++ rest))
  | cut (r : PcapRecord) {rest : List UInt8} (hcut : rest.length < r.inclLen.toNat) (hrest : Playable rest) :
      Playable (r.bytes ++ rest)

namespace PcapSource

def receives (args : ℕ → UdpPacket) : ℕ → PcapSource → PcapSource
  | 0, s => s
  | k + 1, s => receives (fun i => args (i + 1)) k (s.next (args 0)).source

variable {s : PcapSource} {packet : UdpPacket}

def Inside (s : PcapSource) : Prop := s.fpos ≤ s.fileData.length

def GoesOnTo (s : PcapSource) (rest : List UInt8) (t : PcapSource) : Prop :=
  t.Inside ∧ t.rest = rest ∧ t.isPcapEnd = s.isPcapEnd

structure Advances (s : PcapSource) (n : ℕ) (a : Received) : Prop where
  ret : 0 ≤ a.ret
  fpos : a.source.fpos = s.fpos + n
  fileData : a.source.fileData = s.fileData
  inclLen : a.source.inclLen = s.inclLen
  isPcapEnd : a.source.isPcapEnd = s.isPcapEnd

lemma advances_of_walked {a : Received} (h : s.Walked a) : Advances s 0 a := by
  obtain ⟨hret, u, hsource⟩ := h
  refine ⟨hret, ?_, ?_, ?_, ?_⟩
  · rw [hsource, Nat.add_zero]
  · rw [hsource]
  · rw [inclLen, hsource]
    rfl
  · rw [hsource]

lemma next_of_empty (hinside : s.Inside) (h : s.rest = []) :
    s.next packet = ⟨-1, packet, { s with isPcapEnd := true }⟩ := by
  have heof : s.eof = true := eof_iff.mpr (Nat.le_antisymm hinside (List.drop_eq_nil_iff.mp h))
  rw [next, if_pos heof]

lemma read_eq_none {n : ℕ} (h : s.rest.length < n) : s.read n = none := by
  rw [rest, List.length_drop] at h
  rw [read, if_pos (by omega)]

lemma next_of_short (h0 : s.rest ≠ []) (h : s.rest.length < sizeofPcapRecord) : s.next packet = ⟨-1, packet, s⟩ := by
  have hneof : s.eof = false := not_eof rfl (List.length_pos_of_ne_nil h0)
  rw [next, hneof, readRecord, read_eq_none h]
  rfl

lemma readFrame_of_cut (packet : UdpPacket) (h : s.rest.length < s.inclLen) :
    s.readFrame packet = ⟨-1, packet, s⟩ := by
  have hmove : s.move s.inclLen = none := by
    rw [rest, List.length_drop] at h
    rw [move, if_pos (by omega)]
  rw [readFrame, readPayload, read_eq_none h, hmove]
  exact ite_self _

lemma readFrame_of_whole (packet : UdpPacket) {body tail : List UInt8} (hinside : s.Inside)
    (h : s.rest = body ++ tail) (hbody : body.length = s.inclLen) :
    Advances s s.inclLen (s.readFrame packet) := by
  have hlen : s.fpos + s.inclLen ≤ s.fileData.length := by
    have hl := congrArg List.length h
    rw [rest, List.length_drop, List.length_append, hbody] at hl
    rw [Inside] at hinside
    omega
  rw [readFrame]
  split_ifs with hkept
  · rw [readPayload, read_of_rest h hbody (Nat.zero_lt_of_lt hkept.2)]
    obtain ⟨hret, hfpos, hdata, hincl, hend⟩ := advances_of_walked (ethernet_walked packet
      { s with fpos := s.fpos + s.inclLen, payload := overlay body s.payload })
    exact ⟨hret, hfpos, hdata, hincl, hend⟩
  · rw [move, if_neg (Nat.not_lt.mpr hlen)]
    exact ⟨by norm_num, rfl, rfl, rfl, rfl⟩

lemma inside_afterHeader {record : PcapRecord} {tail : List UInt8} (hinside : s.Inside)
    (h : s.rest = record.bytes ++ tail) : (s.afterHeader record).Inside := by
  have hl := congrArg List.length h
  rw [rest, List.length_drop, List.length_append, PcapRecord.length_bytes] at hl
  rw [Inside] at hinside
  have hfpos : (s.afterHeader record).fpos = s.fpos + sizeofPcapRecord := rfl
  have hsize : 0 < sizeofPcapRecord := by decide
  change _ ≤ s.fileData.length
  omega

lemma next_of_cut {r : PcapRecord} {tail : List UInt8} (h : s.rest = r.bytes ++ tail)
    (hcut : tail.length < r.inclLen.toNat) : s.next packet = ⟨-1, packet, s.afterHeader r⟩ := by
  rw [next_of_header h, readFrame_of_cut packet (by rw [rest_afterHeader h]; exact hcut)]

lemma next_of_whole (packet : UdpPacket) {r : PcapRecord} {body tail : List UInt8} (hinside : s.Inside)
    (h : s.rest = r.bytes ++ (body ++ tail)) (hbody : body.length = r.inclLen.toNat) :
    Advances (s.afterHeader r) r.inclLen.toNat (s.next packet) := by
  rw [next_of_header h]
  exact readFrame_of_whole packet (inside_afterHeader hinside h) (rest_afterHeader h) hbody

lemma goesOn_of_whole (packet : UdpPacket) {r : PcapRecord} {body tail : List UInt8} (hinside : s.Inside)
    (h : s.rest = r.bytes ++ (body ++ tail)) (hbody : body.length = r.inclLen.toNat) :
    GoesOnTo s tail (s.next packet).source := by
  obtain ⟨-, hfpos, hdata, -, hend⟩ := next_of_whole packet hinside h hbody
  have hl := congrArg List.length (rest_afterHeader h)
  rw [rest, List.length_drop, List.length_append, hbody] at hl
  have hin := inside_afterHeader hinside h
  rw [Inside] at hin
  refine ⟨?_, rest_advance (rest_afterHeader h) hbody hdata hfpos, hend⟩
  rw [Inside, hdata, hfpos]
  omega

lemma receives_playable (args : ℕ → UdpPacket) (hplay : Playable s.rest) (hinside : s.Inside) :
    ∃ k, (receives args k s).isPcapEnd = true := by
  generalize hrest : s.rest = bytes at hplay
  induction hplay generalizing s args with
  | nil => exact ⟨1, by rw [receives, next_of_empty hinside hrest]; rfl⟩
  | record r hbody _ ih =>
    obtain ⟨hin, htail, -⟩ := goesOn_of_whole (args 0) hinside hrest hbody
    obtain ⟨k, hk⟩ := ih (fun i => args (i + 1)) hin htail
    exact ⟨k + 1, hk⟩
  | cut r hcut _ ih =>
    obtain ⟨k, hk⟩ := ih (fun i => args (i + 1)) (inside_afterHeader hinside hrest) (rest_afterHeader hrest)
    refine ⟨k + 1, ?_⟩
    rw [receives, next_of_cut hrest hcut]
    exact hk

lemma bytes_cases (bytes : List UInt8) : bytes = [] ∨ bytes ≠ [] ∧ bytes.length < sizeofPcapRecord ∨
    ∃ r : PcapRecord, ∃ tail, bytes = r.bytes ++ tail := by
  by_cases h0 : bytes = []
  · exact Or.inl h0
  · refine Or.inr ?_
    by_cases h : bytes.length < sizeofPcapRecord
    · exact Or.inl ⟨h0, h⟩
    · have hlen : (bytes.take sizeofPcapRecord).length = sizeofPcapRecord := by
        rw [List.length_take]
        omega
      refine Or.inr ⟨PcapRecord.readAt (overlay (bytes.take sizeofPcapRecord) fun _ => 0) 0,
        bytes.drop sizeofPcapRecord, ?_⟩
      rw [PcapRecord.bytes_readAt _ hlen, List.take_append_drop]

lemma playable_of_receives {args : ℕ → UdpPacket} {k : ℕ} (hinside : s.Inside)
    (h : (receives args k s).isPcapEnd = true) : s.isPcapEnd = true ∨ Playable s.rest := by
  induction k generalizing s args with
  | zero => exact Or.inl h
  | succ k ih =>
    rw [receives] at h
    rcases bytes_cases s.rest with hnil | ⟨h0, hshort⟩ | ⟨r, tail, hrest⟩
    · exact Or.inr (hnil ▸ Playable.nil)
    · rw [next_of_short h0 hshort] at h
      exact ih hinside h
    · by_cases hcut : tail.length < r.inclLen.toNat
      · rw [next_of_cut hrest hcut] at h
        rcases ih (inside_afterHeader hinside hrest) h with hend | hplay
        · exact Or.inl hend
        · rw [rest_afterHeader hrest] at hplay
          exact Or.inr (hrest ▸ Playable.cut r hcut hplay)
      · have hsplit := List.take_append_drop r.inclLen.toNat tail
        have hbody : (tail.take r.inclLen.toNat).length = r.inclLen.toNat := by
          rw [List.length_take]
          omega
        have hwhole : s.rest = r.bytes ++ (tail.take r.inclLen.toNat ++ tail.drop r.inclLen.toNat) := by
          rw [hsplit, hrest]
        obtain ⟨hin, htail, hkept⟩ := goesOn_of_whole (args 0) hinside hwhole hbody
        rcases ih hin h with hend | hplay
        · exact Or.inl (hkept.symm.trans hend)
        · rw [htail] at hplay
          rw [hwhole]
          exact Or.inr (Playable.record r hbody hplay)

/-- What is behind the read position that `Open` leaves; a file without a whole header is read from its start. -/
def behindHeader (data : List UInt8) : List UInt8 :=
  if data.length < sizeofPcapHeader then data else data.drop sizeofPcapHeader

lemma openFile_some (s : PcapSource) (data : List UInt8) :
    (s.openFile (some data)).2.Inside ∧ (s.openFile (some data)).2.rest = behindHeader data ∧
      (s.openFile (some data)).2.isPcapEnd = s.isPcapEnd := by
  rw [openFile, read, behindHeader]
  simp only [close, Nat.zero_add]
  by_cases hshort : sizeofPcapHeader > data.length
  · rw [if_pos hshort, if_pos hshort]
    exact ⟨Nat.zero_le _, rfl, rfl⟩
  · rw [if_neg hshort, if_neg hshort]
    exact ⟨Nat.not_lt.mp hshort, rfl, rfl⟩

/-- After `Open` the end of the play is reached exactly if the file is played to its end. -/
theorem receives_end_iff (s : PcapSource) (data : List UInt8) (args : ℕ → UdpPacket) :
    (∃ k, (receives args k (s.openFile (some data)).2).isPcapEnd = true) ↔
      s.isPcapEnd = true ∨ Playable (behindHeader data) := by
  obtain ⟨hinside, hrest, hend⟩ := openFile_some s data
  constructor
  · rintro ⟨k, hk⟩
    rw [← hend, ← hrest]
    exact playable_of_receives hinside hk
  · rintro (h | h)
    · exact ⟨0, hend.trans h⟩
    · exact receives_playable args (hrest.symm ▸ h) hinside

theorem receives_end_never : ((default : PcapSource).openFile (some (PcapHeader.recorded.bytes ++ [0]))).1 = true ∧
    ¬∃ k, (receives (fun _ => default) k
      ((default : PcapSource).openFile (some (PcapHeader.recorded.bytes ++ [0]))).2).isPcapEnd = true := by
  refine ⟨by decide, ?_⟩
  rintro ⟨k, hk⟩
  obtain ⟨hinside, hrest, hend⟩ := openFile_some default (PcapHeader.recorded.bytes ++ [0])
  have hbytes : behindHeader (PcapHeader.recorded.bytes ++ [0]) = [0] := by decide
  rw [hbytes] at hrest
  generalize PcapSource.openFile default (some (PcapHeader.recorded.bytes ++ [0])) = opened at *
  induction k with
  | zero => exact absurd (hend.symm.trans hk) (by decide)
  | succ k ih =>
    rw [receives, next_of_short (by simp [hrest]) (by rw [hrest]; decide)] at hk
    exact ih hk

end PcapSource

end HesaiSdk.Source
