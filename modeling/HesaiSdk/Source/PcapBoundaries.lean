import HesaiSdk.Source.PcapPlayback

/-! The read position against the boundaries of the records. -/

namespace HesaiSdk.Source

open Lidar

/-- The positions where a record begins, counted on from `start` through the file. -/
inductive Boundary (data : List UInt8) (start : ℕ) : ℕ → Prop where
  | start : Boundary data start start
  | next (r : PcapRecord) {b : ℕ} {body tail : List UInt8} (hb : Boundary data start b)
      (hdata : data.drop b = r.bytes ++ (body ++ tail)) (hbody : body.length = r.inclLen.toNat) :
      Boundary data start (b + sizeofPcapRecord + r.inclLen.toNat)

/-- Whole records, behind which there is at most a part of a record header, or a record header alone. -/
inductive Framed : List UInt8 → Prop where
  | nil : Framed []
  | short {bytes : List UInt8} (h0 : bytes ≠ []) (hshort : bytes.length < sizeofPcapRecord) : Framed bytes
  | header (r : PcapRecord) (hcut : 0 < r.inclLen.toNat) : Framed r.bytes
  | record (r : PcapRecord) {body rest : List UInt8} (hbody : body.length = r.inclLen.toNat)
      (hrest : Framed rest) : Framed (r.bytes ++ (body ++ rest))

namespace PcapSource

structure KeepsBoundary (s : PcapSource) (packet : UdpPacket) : Prop where
  failed : (s.next packet).ret = -1 →
    (s.next packet).source.fpos = s.fpos ∨ (s.next packet).source.fpos = s.fileData.length
  advanced : (s.next packet).ret ≠ -1 →
    (s.next packet).source.fpos = s.fpos + sizeofPcapRecord + (s.next packet).source.inclLen

structure AtBoundary (opened s : PcapSource) : Prop where
  data : s.fileData = opened.fileData
  inside : s.Inside
  position : Boundary opened.fileData opened.fpos s.fpos ∨ s.fpos = opened.fileData.length

variable {opened s : PcapSource} {packet : UdpPacket}

lemma keepsBoundary_of_kept {t : PcapSource} (h : s.next packet = ⟨-1, packet, t⟩)
    (hpos : t.fpos = s.fpos ∨ t.fpos = s.fileData.length) : KeepsBoundary s packet := by
  constructor
  · intro _
    rw [h]
    exact hpos
  · intro hret
    rw [h] at hret
    exact absurd rfl hret

lemma keepsBoundary_of_whole {r : PcapRecord} {body tail : List UInt8} (hinside : s.Inside)
    (h : s.rest = r.bytes ++ (body ++ tail)) (hbody : body.length = r.inclLen.toNat) : KeepsBoundary s packet := by
  obtain ⟨hret, hfpos, -, hincl, -⟩ := next_of_whole packet hinside h hbody
  constructor
  · intro hfail
    rw [hfail] at hret
    exact absurd hret (by norm_num)
  · intro _
    rw [hfpos, hincl]
    rfl

lemma fpos_of_header {r : PcapRecord} (hinside : s.Inside) (h : s.rest = r.bytes) :
    (s.afterHeader r).fpos = s.fileData.length := by
  have hl := congrArg List.length h
  rw [rest, List.length_drop, PcapRecord.length_bytes] at hl
  have hfpos : (s.afterHeader r).fpos = s.fpos + sizeofPcapRecord := rfl
  have hsize : 0 < sizeofPcapRecord := by decide
  rw [Inside] at hinside
  omega

lemma AtBoundary.whole {r : PcapRecord} {body tail : List UInt8} (hat : AtBoundary opened s)
    (h : s.rest = r.bytes ++ (body ++ tail)) (hbody : body.length = r.inclLen.toNat) :
    AtBoundary opened (s.next packet).source := by
  obtain ⟨-, hfpos, hdata, -, -⟩ := next_of_whole packet hat.inside h hbody
  refine ⟨hdata.trans hat.data, (goesOn_of_whole packet hat.inside h hbody).1, Or.inl ?_⟩
  rw [hfpos]
  cases hat.position with
  | inl hboundary =>
    have hdrop : opened.fileData.drop s.fpos = r.bytes ++ (body ++ tail) := by
      rw [← hat.data]
      exact h
    exact Boundary.next r hboundary hdrop hbody
  | inr hend =>
    have hl := congrArg List.length h
    rw [rest, List.length_drop, hat.data, hend, Nat.sub_self, List.length_append, PcapRecord.length_bytes] at hl
    exact absurd hl (by rw [sizeofPcapRecord]; omega)

lemma next_framed (packet : UdpPacket) (hat : AtBoundary opened s) (hframed : Framed s.rest) :
    KeepsBoundary s packet ∧ AtBoundary opened (s.next packet).source ∧ Framed (s.next packet).source.rest := by
  generalize hrest : s.rest = bytes at hframed
  cases hframed with
  | nil =>
    have hnext : s.next packet = ⟨-1, packet, { s with isPcapEnd := true }⟩ := next_of_empty hat.inside hrest
    refine ⟨keepsBoundary_of_kept hnext (Or.inl rfl), ?_, ?_⟩
    · rw [hnext]
      exact ⟨hat.data, hat.inside, hat.position⟩
    · rw [hnext]
      exact hrest ▸ Framed.nil
  | short h0 hshort =>
    have hnext : s.next packet = ⟨-1, packet, s⟩ := next_of_short (hrest ▸ h0) (hrest ▸ hshort)
    refine ⟨keepsBoundary_of_kept hnext (Or.inl rfl), ?_, ?_⟩
    · rw [hnext]
      exact hat
    · rw [hnext]
      exact hrest ▸ Framed.short h0 hshort
  | header r hcut =>
    have hbytes : s.rest = r.bytes ++ [] := by rw [hrest, List.append_nil]
    have hnext : s.next packet = ⟨-1, packet, s.afterHeader r⟩ := next_of_cut hbytes hcut
    have hend := fpos_of_header hat.inside hrest
    refine ⟨keepsBoundary_of_kept hnext (Or.inr hend), ?_, ?_⟩
    · rw [hnext]
      exact ⟨hat.data, inside_afterHeader hat.inside hbytes, Or.inr (hend.trans (congrArg List.length hat.data))⟩
    · rw [hnext]
      exact (rest_afterHeader hbytes).symm ▸ Framed.nil
  | record r hbody htail =>
    refine ⟨keepsBoundary_of_whole hat.inside hrest hbody, hat.whole hrest hbody, ?_⟩
    rw [(goesOn_of_whole packet hat.inside hrest hbody).2.1]
    exact htail

lemma receives_framed (args : ℕ → UdpPacket) (k : ℕ) (hat : AtBoundary opened s) (hframed : Framed s.rest) :
    KeepsBoundary (receives args k s) (args k) ∧ AtBoundary opened (receives args k s) := by
  induction k generalizing s args with
  | zero => exact ⟨(next_framed (args 0) hat hframed).1, hat⟩
  | succ k ih =>
    obtain ⟨-, hnext, hrest⟩ := next_framed (args 0) hat hframed
    exact ih (fun i => args (i + 1)) hnext hrest

lemma not_keepsBoundary {r : PcapRecord} {tail : List UInt8} (h : s.rest = r.bytes ++ tail)
    (h0 : tail ≠ []) (hcut : tail.length < r.inclLen.toNat) : ¬KeepsBoundary s packet := by
  rintro ⟨hfailed, -⟩
  have hfpos : (s.next packet).source.fpos = s.fpos + sizeofPcapRecord := by
    rw [next_of_cut h hcut]
    rfl
  have hl := congrArg List.length h
  have hpos := List.length_pos_of_ne_nil h0
  rw [rest, List.length_drop, List.length_append, PcapRecord.length_bytes] at hl
  rw [sizeofPcapRecord] at hl hfpos
  rw [hfpos] at hfailed
  have hcases := hfailed (by rw [next_of_cut h hcut])
  omega

lemma framed_of_receives (hinside : s.Inside)
    (h : ∀ k, KeepsBoundary (receives (fun _ => packet) k s) packet) : Framed s.rest := by
  -- each whole record leaves a shorter rest
  generalize hlen : s.rest.length = n
  induction n using Nat.strong_induction_on generalizing s with
  | _ n ih =>
    rcases bytes_cases s.rest with hnil | ⟨h0, hshort⟩ | ⟨r, tail, hrest⟩
    · exact hnil ▸ Framed.nil
    · exact Framed.short h0 hshort
    · by_cases hcut : tail.length < r.inclLen.toNat
      · by_cases h0 : tail = []
        · rw [h0, List.append_nil] at hrest
          exact hrest ▸ Framed.header r (Nat.zero_lt_of_lt hcut)
        · exact absurd (h 0) (not_keepsBoundary hrest h0 hcut)
      · have hbody : (tail.take r.inclLen.toNat).length = r.inclLen.toNat := by
          rw [List.length_take]
          omega
        have hwhole : s.rest = r.bytes ++ (tail.take r.inclLen.toNat ++ tail.drop r.inclLen.toNat) := by
          rw [List.take_append_drop, hrest]
        obtain ⟨hin, htail, -⟩ := goesOn_of_whole packet hinside hwhole hbody
        have hshorter : (s.next packet).source.rest.length < n := by
          rw [htail, ← hlen, hrest, List.length_drop, List.length_append, PcapRecord.length_bytes, sizeofPcapRecord]
          omega
        have hframed := ih _ hshorter hin (fun k => h (k + 1)) rfl
        rw [htail] at hframed
        rw [hwhole]
        exact Framed.record r hbody hframed

/-- After `Open` no sequence of calls leaves the boundaries of the records exactly if the file is not cut off
within the body of a record. -/
theorem receives_keepsBoundary_iff (s : PcapSource) (data : List UInt8) :
    (∀ args k, KeepsBoundary (receives args k (s.openFile (some data)).2) (args k) ∧
      AtBoundary (s.openFile (some data)).2 (receives args k (s.openFile (some data)).2)) ↔
    Framed (behindHeader data) := by
  obtain ⟨hinside, hrest, -⟩ := openFile_some s data
  rw [← hrest]
  constructor
  · intro h
    exact framed_of_receives hinside fun k => (h (fun _ => default) k).1
  · intro hframed args k
    exact receives_framed args k ⟨rfl, hinside, Or.inl Boundary.start⟩ hframed

def cutInBody : List UInt8 := PcapHeader.recorded.bytes ++ ((⟨0, 0, 1500, 1500⟩ : PcapRecord).bytes ++ [0])

theorem receives_leavesBoundary : ((default : PcapSource).openFile (some cutInBody)).1 = true ∧
    ¬∀ args k, KeepsBoundary (receives args k ((default : PcapSource).openFile (some cutInBody)).2) (args k) ∧
      AtBoundary ((default : PcapSource).openFile (some cutInBody)).2
        (receives args k ((default : PcapSource).openFile (some cutInBody)).2) := by
  refine ⟨by decide, fun h => ?_⟩
  obtain ⟨-, hrest, -⟩ := openFile_some default cutInBody
  have hbehind : behindHeader cutInBody = (⟨0, 0, 1500, 1500⟩ : PcapRecord).bytes ++ [0] := by decide
  exact not_keepsBoundary (hrest.trans hbehind) (List.cons_ne_nil _ _) (by decide) (h (fun _ => default) 0).1

end PcapSource

end HesaiSdk.Source
