import HesaiSdk.Driver.FrameInvariant
import HesaiSdk.Library.Segments
import HesaiSdk.UdpParser.Cutting

/-! The frames of `Run` where the parser compares each packet with the one before. -/

namespace HesaiSdk.Driver

open Library Library.Segments Lidar UdpProtocol Parsing

variable {σ Pt Fault : Type}

def RunEvent.closedFrames : RunEvent Pt Fault → List (List UdpPacket)
  | .published _ packets => [packets]
  | .dropped packets => [packets]
  | .overflow packets => [packets]
  | _ => []

/-- The packet lists that were put away. -/
def closedFrames (history : List (RunEvent Pt Fault)) : List (List UdpPacket) :=
  history.flatMap RunEvent.closedFrames

@[simp] lemma closedFrames_append (h h' : List (RunEvent Pt Fault)) :
    closedFrames (h ++ h') = closedFrames h ++ closedFrames h' := List.flatMap_append

@[simp] lemma closedFrames_access (l : List DecodeEvent) :
    closedFrames (l.map RunEvent.access : List (RunEvent Pt Fault)) = [] := by
  simp [closedFrames, List.flatMap_map, RunEvent.closedFrames]

/-- An empty frame is what a cut behind a full one leaves. -/
def filled (frames : List (List UdpPacket)) : List (List UdpPacket) := frames.filter fun frame => !frame.isEmpty

@[simp] lemma filled_append (frames frames' : List (List UdpPacket)) :
    filled (frames ++ frames') = filled frames ++ filled frames' := List.filter_append ..

lemma filled_nil : filled [[]] = [] := rfl

lemma filled_of_ne_nil {packets : List UdpPacket} (h : packets ≠ []) : filled [packets] = [packets] := by
  cases packets with
  | nil => exact absurd rfl h
  | cons packet packets => rfl

namespace RunState

variable {env : Environment} {P : Parser σ Pt Fault} {K : CuttingParser σ Pt Fault} {device : DeviceFilter}
  {s : RunState σ Pt Fault} {packet : UdpPacket} {sourceType : ℤ} {p : σ}

@[simp] lemma closedFrames_decode_log : closedFrames (s.decode env P packet).log = [] := by
  rw [decode_log, closedFrames_access]

@[simp] lemma closedFrames_append_log : closedFrames (s.append P packet).log = [] := by
  simp only [append, compute, log_bind, log_note, log_relabel, log_pure, List.append_nil, closedFrames_append,
    closedFrames_access]
  rfl

@[simp] lemma closedFrames_publish : closedFrames [s.publish] = [s.udpPacketFrame] := by
  rw [publish]
  split <;> simp [closedFrames, RunEvent.closedFrames]

lemma decode_rejected (env : Environment) (hp : s.udpParser.parser = some p)
    (h : ¬(K.opened p ∧ K.accepts packet ∧ ¬packet.packetLen < 6)) :
    (s.decode env K.toParser packet).val.1 = -1 ∧ (s.decode env K.toParser packet).val.2.udpParser.parser = some p := by
  by_cases hlen : packet.packetLen < 6
  · rw [decode_val, UdpParser.decodePacket_val_of_short hlen]
    exact ⟨rfl, hp⟩
  · obtain ⟨hret, -, hparser⟩ := decode_of_some env K.toParser hp hlen
    rw [hret, hparser, K.rejected p s.frame packet fun hc => h ⟨hc.1, hc.2, hlen⟩]
    exact ⟨rfl, rfl⟩

lemma decode_accepted (env : Environment) (hp : s.udpParser.parser = some p) (hsteady : K.steady p)
    (hmarked : K.marked packet) (h : K.opened p ∧ K.accepts packet ∧ ¬packet.packetLen < 6) :
    let d := (s.decode env K.toParser packet).val
    d.1 = 0 ∧ d.2.frame.packetNum = s.frame.packetNum + 1 ∧
      (∃ q, d.2.udpParser.parser = some q ∧ K.opened q ∧ K.steady q ∧ K.last q packet) ∧
      ∀ before, K.last p before → d.2.frame.scanComplete = !K.same before packet := by
  obtain ⟨hopened, haccepts, hlen⟩ := h
  obtain ⟨hret, hframe, hparser⟩ := decode_of_some env K.toParser hp hlen
  obtain ⟨h0, hkept, hnum⟩ := K.accepted p s.frame packet hopened haccepts
  obtain ⟨hsteady', hlast, hcut⟩ := K.cut p s.frame packet hsteady hopened haccepts hmarked
  refine ⟨hret.trans h0, ?_⟩
  rw [hframe]
  exact ⟨hnum, ⟨_, hparser, hkept, hsteady', hlast⟩, hcut⟩

variable (env) in
lemma parsePacket_rejected (hp : s.udpParser.parser = some p)
    (h : ¬(K.opened p ∧ K.accepts packet ∧ ¬packet.packetLen < 6)) :
    let r := s.parsePacket env K.toParser packet
    closedFrames r.log = [] ∧ acceptedPackets r.log = [] ∧ r.val.udpPacketFrame = s.udpPacketFrame ∧
      r.val.udpParser.parser = some p := by
  obtain ⟨hret, hparser⟩ := decode_rejected env hp h
  have hne : (s.decode env K.toParser packet).val.1 ≠ 0 := by
    rw [hret]
    decide
  intro r
  have hval : r.val = (s.decode env K.toParser packet).val.2 := by
    simp only [r, parsePacket, val_bind, if_pos hne, val_pure]
  have hlog : r.log = (s.decode env K.toParser packet).log := by
    simp only [r, parsePacket, log_bind, if_pos hne, log_pure, List.append_nil, acceptedIf,
      if_neg (fun hc : _ ∧ _ => hne hc.1)]
  rw [hval, hlog]
  exact ⟨closedFrames_decode_log, acceptedPackets_decode_log, by rw [decode_val], hparser⟩

variable (env) in
lemma splitFrame_cut (hne : s.frame.packetNum ≠ s.packetIndex) (hp : s.udpParser.parser = some p)
    (hsteady : K.steady p) (hmarked : K.marked packet) (h : K.opened p ∧ K.accepts packet ∧ ¬packet.packetLen < 6) :
    let r := s.splitFrame env K.toParser packet
    acceptedPackets r.log = [] ∧ closedFrames r.log = [s.udpPacketFrame] ∧ r.val.udpPacketFrame = [packet] ∧
      ∃ q, r.val.udpParser.parser = some q ∧ K.steady q ∧ K.last q packet := by
  obtain ⟨-, -, ⟨q, hq, -, hsteady', hlast⟩, -⟩ :=
    decode_accepted (s := s.endFrame.restart) env hp hsteady hmarked h
  have hended : s.endFrame.udpPacketFrame = s.udpPacketFrame := rfl
  intro r
  simp only [r, splitFrame, log_bind, val_bind, log_note, if_neg hne, acceptedPackets_append, closedFrames_append,
    acceptedPackets_publish, closedFrames_publish, acceptedPackets_decode_log, closedFrames_decode_log,
    acceptedPackets_append_log, closedFrames_append_log, append_val, List.append_nil, hended, true_and]
  exact ⟨rfl, q, hq, hsteady', hlast⟩

lemma overflow_cut : acceptedPackets s.overflow.log = [] ∧ s.overflow.val.udpParser = s.udpParser ∧
    (s.packetIndex < kMaxPacketNumPerFrame ∧ closedFrames s.overflow.log = [] ∧
        s.overflow.val.udpPacketFrame = s.udpPacketFrame ∨
      kMaxPacketNumPerFrame ≤ s.packetIndex ∧ closedFrames s.overflow.log = [s.udpPacketFrame] ∧
        s.overflow.val.udpPacketFrame = []) := by
  rw [overflow]
  split_ifs with hover
  · exact ⟨rfl, rfl, Or.inr ⟨hover, rfl, rfl⟩⟩
  · exact ⟨rfl, rfl, Or.inl ⟨Nat.lt_of_not_le hover, rfl, rfl⟩⟩

variable (env) in
lemma parsePacket_accepted (hs : InStep sourceType s) (hp : s.udpParser.parser = some p) (hsteady : K.steady p)
    (hmarked : K.marked packet) (h : K.opened p ∧ K.accepts packet ∧ ¬packet.packetLen < 6) :
    let r := s.parsePacket env K.toParser packet
    acceptedPackets r.log = [packet] ∧ (∃ q, r.val.udpParser.parser = some q ∧ K.steady q ∧ K.last q packet) ∧
      ((∀ before, K.last p before → K.same before packet = false) ∧ closedFrames r.log = [s.udpPacketFrame] ∧
          r.val.udpPacketFrame = [packet] ∨
        (∀ before, K.last p before → K.same before packet = true) ∧
          (s.packetIndex + 1 < kMaxPacketNumPerFrame ∧ closedFrames r.log = [] ∧
              r.val.udpPacketFrame = s.udpPacketFrame ++ [packet] ∨
            kMaxPacketNumPerFrame ≤ s.packetIndex + 1 ∧ closedFrames r.log = [s.udpPacketFrame ++ [packet]] ∧
              r.val.udpPacketFrame = [])) := by
  obtain ⟨h0, hnum, ⟨q, hq, hopened, hsteady', hlast⟩, hscan⟩ := decode_accepted (s := s) env hp hsteady hmarked h
  have hframe : (s.decode env K.toParser packet).val.2.udpPacketFrame = s.udpPacketFrame := by rw [decode_val]
  have hindex : (s.decode env K.toParser packet).val.2.packetIndex = s.packetIndex := by rw [decode_val]
  have hclosed : closedFrames (s.decode env K.toParser packet).log = [] := closedFrames_decode_log
  have haccepted : acceptedPackets (s.decode env K.toParser packet).log = [] := acceptedPackets_decode_log
  intro r
  simp only [r, parsePacket, val_bind, log_bind, acceptedIf]
  generalize (s.decode env K.toParser packet).log = log at *
  generalize (s.decode env K.toParser packet).val = d at *
  have hne : d.2.frame.packetNum ≠ d.2.packetIndex := by
    rw [hnum, hindex, hs.packetNum]
    exact Nat.succ_ne_self _
  rw [if_pos ⟨h0, hnum⟩, if_neg (not_not.mpr h0), log_note, acceptedPackets_append, acceptedPackets_append,
    closedFrames_append, closedFrames_append, hclosed, haccepted]
  cases hcase : d.2.frame.scanComplete with
  | true =>
    obtain ⟨hacc, hcl, hpackets, hparser⟩ := splitFrame_cut (s := d.2) env hne hq hsteady' hmarked ⟨hopened, h.2⟩
    simp only [if_true, hacc, hcl, hpackets, hframe]
    refine ⟨rfl, hparser, Or.inl ⟨fun before hbefore => ?_, rfl, trivial⟩⟩
    have hcut := hscan before hbefore
    rw [hcase] at hcut
    simpa using hcut.symm
  | false =>
    have hcounted : ((d.2.compute K.toParser).val.count packet).udpPacketFrame = s.udpPacketFrame ++ [packet] :=
      congrArg (· ++ [packet]) hframe
    have hnext : ((d.2.compute K.toParser).val.count packet).packetIndex = s.packetIndex + 1 :=
      congrArg (· + 1) hindex
    obtain ⟨hacc, hparser, hcases⟩ := overflow_cut (s := (d.2.compute K.toParser).val.count packet)
    rw [hcounted, hnext] at hcases
    simp only [Bool.false_eq_true, if_false, if_neg hne, log_bind, val_bind, acceptedPackets_append,
      closedFrames_append, acceptedPackets_append_log, closedFrames_append_log, append_val, hacc, hparser]
    refine ⟨rfl, ⟨q, hq, hsteady', hlast⟩, Or.inr ⟨fun before hbefore => ?_, hcases⟩⟩
    have hcut := hscan before hbefore
    rw [hcase] at hcut
    simpa using hcut.symm

/-- What is kept between two packets: the frames are the pieces of the packets accepted so far, and the parser has the
last one of them. -/
structure CutInv (K : CuttingParser σ Pt Fault) (sourceType : ℤ) (history : List (RunEvent Pt Fault))
    (s : RunState σ Pt Fault) : Prop extends FrameInv sourceType history s where
  keeps : ∃ p, s.udpParser.parser = some p ∧ K.steady p ∧
    ∀ packet ∈ (acceptedPackets history).getLast?, K.last p packet
  pieces : Pieces K.same kMaxPacketNumPerFrame (filled (closedFrames history) ++ filled [s.udpPacketFrame])
    (acceptedPackets history)
  full : s.udpPacketFrame = [] → ∀ frame ∈ (filled (closedFrames history)).getLast?,
    frame.length = kMaxPacketNumPerFrame

section Invariant

variable {history : List (RunEvent Pt Fault)} {before : UdpPacket}

lemma CutInv.last_accepted (hs : CutInv K sourceType history s) (h : before ∈ s.udpPacketFrame.getLast?) :
    before ∈ (acceptedPackets history).getLast? := by
  have hne : s.udpPacketFrame ≠ [] := by
    rintro hnil
    rw [hnil] at h
    cases h
  rwa [← hs.partition, List.getLast?_append_of_ne_nil _ hne]

/-- The current frame ends before a packet that the parser parts from the last one. -/
lemma CutInv.begin (hs : CutInv K sourceType history s)
    (hpart : ∀ before ∈ s.udpPacketFrame.getLast?, K.same before packet = false) :
    Pieces K.same kMaxPacketNumPerFrame (filled (closedFrames history) ++ filled [s.udpPacketFrame] ++ [[packet]])
      (acceptedPackets history ++ [packet]) := by
  refine hs.pieces.begin kMaxPacketNumPerFrame_pos fun piece hpiece => ?_
  by_cases hnil : s.udpPacketFrame = []
  · rw [hnil, filled_nil, List.append_nil] at hpiece
    exact Or.inl (hs.full hnil piece hpiece)
  · rw [filled_of_ne_nil hnil, List.getLast?_concat] at hpiece
    obtain rfl := Option.some.inj hpiece
    refine Or.inr fun before hbefore after hafter => ?_
    obtain rfl := Option.some.inj hafter
    exact hpart before hbefore

lemma CutInv.extend (hs : CutInv K sourceType history s)
    (hsame : ∀ before ∈ s.udpPacketFrame.getLast?, K.same before packet = true) :
    Pieces K.same kMaxPacketNumPerFrame (filled (closedFrames history) ++ [s.udpPacketFrame ++ [packet]])
      (acceptedPackets history ++ [packet]) := by
  by_cases hnil : s.udpPacketFrame = []
  · have hnone : ∀ before ∈ s.udpPacketFrame.getLast?, K.same before packet = false := by
      intro before hbefore
      rw [hnil] at hbefore
      cases hbefore
    have hbegin := hs.begin hnone
    rw [hnil, filled_nil, List.append_nil] at hbegin
    rwa [hnil, List.nil_append]
  · have hpieces := hs.pieces
    rw [filled_of_ne_nil hnil] at hpieces
    exact hpieces.extend (hs.length ▸ hs.below) hsame

lemma parsePacket_cut (hs : CutInv K sourceType history s) (hmarked : K.marked packet) :
    CutInv K sourceType (history ++ (s.parsePacket env K.toParser packet).log)
      (s.parsePacket env K.toParser packet).val := by
  have hframe : FrameInv sourceType (history ++ (s.parsePacket env K.toParser packet).log)
      (s.parsePacket env K.toParser packet).val := parsePacket_inv (F := K.framing) hs.toFrameInv trivial
  obtain ⟨p, hp, hsteady, hlast⟩ := hs.keeps
  by_cases h : K.opened p ∧ K.accepts packet ∧ ¬packet.packetLen < 6
  · obtain ⟨haccepted, ⟨q, hq, hsteady', hlast'⟩, hcases⟩ :=
      parsePacket_accepted env hs.toInStep hp hsteady hmarked h
    have hkeeps : ∃ q, (s.parsePacket env K.toParser packet).val.udpParser.parser = some q ∧ K.steady q ∧
        ∀ before ∈ (acceptedPackets (history ++ (s.parsePacket env K.toParser packet).log)).getLast?,
          K.last q before := by
      refine ⟨q, hq, hsteady', fun before hbefore => ?_⟩
      rw [acceptedPackets_append, haccepted, List.getLast?_concat] at hbefore
      obtain rfl := Option.some.inj hbefore
      exact hlast'
    rcases hcases with ⟨hpart, hclosed, hpackets⟩ | ⟨hsame, ⟨hbelow, hclosed, hpackets⟩ | ⟨hover, hclosed, hpackets⟩⟩
    · refine ⟨hframe, hkeeps, ?_, ?_⟩
      · rw [closedFrames_append, acceptedPackets_append, haccepted, hclosed, hpackets, filled_append]
        exact hs.begin fun before hbefore => hpart before (hlast before (hs.last_accepted hbefore))
      · rw [hpackets]
        exact fun hnil => absurd hnil (List.cons_ne_nil _ _)
    · have hpieces := hs.extend fun before hbefore => hsame before (hlast before (hs.last_accepted hbefore))
      refine ⟨hframe, hkeeps, ?_, ?_⟩
      · rw [closedFrames_append, acceptedPackets_append, haccepted, hclosed, hpackets, List.append_nil,
          filled_of_ne_nil (by simp)]
        exact hpieces
      · rw [hpackets]
        exact fun hnil => absurd hnil (by simp)
    · have hpieces := hs.extend fun before hbefore => hsame before (hlast before (hs.last_accepted hbefore))
      have hfilled : filled [s.udpPacketFrame ++ [packet]] = [s.udpPacketFrame ++ [packet]] :=
        filled_of_ne_nil (by simp)
      refine ⟨hframe, hkeeps, ?_, fun _ frame hlastFrame => ?_⟩
      · rw [closedFrames_append, acceptedPackets_append, haccepted, hclosed, hpackets, filled_append, hfilled, filled_nil,
          List.append_nil]
        exact hpieces
      · rw [closedFrames_append, hclosed, filled_append, hfilled, List.getLast?_concat] at hlastFrame
        obtain rfl := Option.some.inj hlastFrame
        have hbelow := hs.below
        rw [List.length_append, hs.length, List.length_singleton]
        omega
  · obtain ⟨hclosed, haccepted, hpackets, hparser⟩ := parsePacket_rejected env hp h
    refine ⟨hframe, ⟨p, hparser, hsteady, ?_⟩, ?_, ?_⟩
    · rwa [acceptedPackets_append, haccepted, List.append_nil]
    · rw [closedFrames_append, acceptedPackets_append, haccepted, hclosed, hpackets, List.append_nil, List.append_nil]
      exact hs.pieces
    · rw [closedFrames_append, hclosed, hpackets, List.append_nil]
      exact hs.full

lemma parseFault_cut (hs : CutInv K sourceType history s) :
    CutInv K sourceType (history ++ (s.parseFault K.toParser packet).log) (s.parseFault K.toParser packet).val := by
  have hclosed : closedFrames (s.parseFault K.toParser packet).log = [] := by
    rw [parseFault]
    split_ifs <;> rfl
  have haccepted : acceptedPackets (s.parseFault K.toParser packet).log = [] := by
    rw [parseFault]
    split_ifs <;> rfl
  have hframe : FrameInv sourceType (history ++ (s.parseFault K.toParser packet).log)
      (s.parseFault K.toParser packet).val := parseFault_inv (F := K.framing) hs.toFrameInv
  rw [parseFault_val] at hframe ⊢
  refine ⟨hframe, ?_, ?_, ?_⟩
  · rw [acceptedPackets_append, haccepted, List.append_nil]
    exact hs.keeps
  · rw [closedFrames_append, acceptedPackets_append, hclosed, haccepted, List.append_nil, List.append_nil]
    exact hs.pieces
  · rw [closedFrames_append, hclosed, List.append_nil]
    exact hs.full

lemma step_cut {fetch : Fetch} (hmarked : ∀ packet, device.Decodes fetch packet → K.marked packet)
    (hs : CutInv K sourceType history s) :
    CutInv K sourceType (history ++ (s.step env K.toParser device fetch).log)
      (s.step env K.toParser device fetch).val := by
  rw [step]
  rcases classify_cases device s.packetIndex fetch with h | ⟨packet, hp, h | h⟩
  · simpa [h] using hs
  · rw [h]
    exact parseFault_cut hs
  · rw [h]
    exact parsePacket_cut hs (hmarked packet ⟨s.packetIndex, h⟩)

lemma start_cut {u : UdpParser σ} {frame : LidarDecodedFrame Pt} {info : Fault} (hp : u.parser = some p)
    (hsteady : K.steady p) : CutInv K u.sourceType [] (start u frame info) where
  parser := ⟨by rw [start, hp]; rfl, rfl⟩
  packetNum := rfl
  length := rfl
  below := kMaxPacketNumPerFrame_pos
  partition := rfl
  keeps := ⟨p, hp, hsteady, nofun⟩
  pieces := Pieces.nil
  full _ := nofun

end Invariant

section Results

variable {u : UdpParser σ}

/-- The frames of the run so far, with the current one. -/
def frames (r : Logged (RunEvent Pt Fault) (RunState σ Pt Fault)) : List (List UdpPacket) :=
  filled (closedFrames r.log ++ [r.val.udpPacketFrame])

variable (env K device) in
lemma run_cut (hp : u.parser = some p) (hsteady : K.steady p) (frame : LidarDecodedFrame Pt) (info : Fault)
    (fetches : List Fetch) (hmarked : ∀ fetch ∈ fetches, ∀ packet, device.Decodes fetch packet → K.marked packet) :
    let r := (start u frame info).run env K.toParser device fetches
    Pieces K.same kMaxPacketNumPerFrame (frames r) (acceptedPackets r.log) := by
  intro r
  have h : CutInv K u.sourceType r.log r.val :=
    runs_invariant (P := CutInv K u.sourceType)
      (C := fun fetch => ∀ packet, device.Decodes fetch packet → K.marked packet)
      (fun _ _ _ hf hs => step_cut hf hs) hmarked (start_cut hp hsteady)
  rw [frames, filled_append]
  exact h.pieces

/-- Only the last frame can be the current one. -/
lemma closed_of_mem_dropLast {r : Logged (RunEvent Pt Fault) (RunState σ Pt Fault)} {frame : List UdpPacket}
    (h : frame ∈ (frames r).dropLast) : frame ∈ closedFrames r.log := by
  have hmem : frame ∈ filled (closedFrames r.log) := by
    rw [frames, filled_append] at h
    by_cases hnil : r.val.udpPacketFrame = []
    · rw [hnil, filled_nil, List.append_nil] at h
      exact List.dropLast_subset _ h
    · rwa [filled_of_ne_nil hnil, List.dropLast_concat] at h
  exact (List.mem_filter.mp hmem).1

/-- A frame of packets that all have one value, up to the packet that has another one. -/
structure CutBy {ι : Type} [DecidableEq ι] (value : UdpPacket → ι)
    (r : Logged (RunEvent Pt Fault) (RunState σ Pt Fault)) : Prop where
  flatten : (frames r).flatten = acceptedPackets r.log
  constant : ∀ frame ∈ frames r, ∀ a ∈ frame, ∀ b ∈ frame, value a = value b
  between : (frames r).IsChain fun f g => f.length = kMaxPacketNumPerFrame ∨
    ∀ a ∈ f.getLast?, ∀ b ∈ g.head?, value a ≠ value b
  longest : (∀ frame ∈ closedFrames r.log, frame.length < kMaxPacketNumPerFrame) →
    frames r = (acceptedPackets r.log).splitBy fun a b => value a == value b

lemma CutBy.of_pieces {ι : Type} [DecidableEq ι] {value : UdpPacket → ι}
    {r : Logged (RunEvent Pt Fault) (RunState σ Pt Fault)}
    (h : Pieces (fun a b => value a == value b) kMaxPacketNumPerFrame (frames r) (acceptedPackets r.log)) :
    CutBy value r where
  flatten := h.flatten
  constant := by
    intro frame hframe a ha b hb
    have hsymm : Std.Symm fun x y => value x = value y := ⟨fun _ _ => Eq.symm⟩
    have htrans : IsTrans UdpPacket fun x y => value x = value y := ⟨fun _ _ _ => Eq.trans⟩
    have hchain : frame.IsChain fun x y => value x = value y :=
      (h.within frame hframe).imp fun x y hxy => beq_iff_eq.mp hxy
    have hpair : frame.Pairwise fun x y => value x = value y := List.isChain_iff_pairwise.mp hchain
    exact List.Pairwise.forall_of_forall (R := fun x y => value x = value y) (fun _ _ => rfl) hpair ha hb
  between := h.between.imp fun f g hends => hends.imp id fun hpart a ha b hb => by simpa using hpart a ha b hb
  longest hsmall := h.eq_splitBy fun frame hframe => hsmall frame (closed_of_mem_dropLast hframe)

/-- With a parser of the ET lidars (2.4, 2.5 or 2.6) a frame is what comes in with one frame id. -/
theorem run_etFrames {Corrections : Type} {message : UdpPacket → EtMessage}
    {P : Parser (EtParser Corrections) Pt Fault} (h : EtParser.Guards env message P) (device : DeviceFilter)
    {u : UdpParser (EtParser Corrections)} {p : EtParser Corrections} (hp : u.parser = some p)
    (hangle : p.useAngle = true) (frame : LidarDecodedFrame Pt) (info : Fault) (fetches : List Fetch) :
    CutBy (EtParser.frameIdOf env message) ((start u frame info).run env P device fetches) :=
  .of_pieces (run_cut env (EtParser.cutting P h) device hp hangle frame info fetches fun _ _ _ _ => trivial)

def etPacket (frameId : UInt8) : UdpPacket :=
  UdpPacket.ofBytes [0xEE, 0xFF, 2, 5, 0, 0, 0, 0, 0, 5, 0, 1, 0, 0, 0, 0, 0, 0, 0, 0, 0, 0, 0, 0, 0, 0, frameId]

theorem run_etFrames_example :
    let r := (start ⟨some { (default : EtParser ETCorrections) with getCorrectionFile := true }, true, 0, 0, 0, true, 1⟩
      default ()).run default (udp25 default LidarPointXYZICRT Unit) ⟨0, 0, 0⟩
      ([etPacket 7, etPacket 7, etPacket 8].map fun packet => ⟨some packet, true⟩)
    (frames r).flatten = acceptedPackets r.log ∧ frames r = [[etPacket 7, etPacket 7], [etPacket 8]] := by
  have h := run_etFrames (udp25_guards default LidarPointXYZICRT Unit) ⟨0, 0, 0⟩
    (u := ⟨some { (default : EtParser ETCorrections) with getCorrectionFile := true }, true, 0, 0, 0, true, 1⟩) rfl rfl
    default () ([etPacket 7, etPacket 7, etPacket 8].map fun packet => ⟨some packet, true⟩)
  exact ⟨h.flatten, by rfl⟩

/-- With the ATX parser a frame is what comes in with one last bit of the frame id. -/
theorem run_atxFrames (env : Environment) (parserFaultMessage : UdpPacket → Fault → Fault) (device : DeviceFilter)
    [Point Pt] {u : UdpParser Udp47Parser} {p : Udp47Parser} (hp : u.parser = some p) (hangle : p.useAngle = true)
    (frame : LidarDecodedFrame Pt) (info : Fault) (fetches : List Fetch)
    (hblocks : ∀ fetch ∈ fetches, ∀ packet, device.Decodes fetch packet →
      (V47.headerAt env packet).getBlockNum ≠ 0) :
    CutBy (Udp47Parser.parityAt env)
      ((start u frame info).run env (udp47 env Pt Fault parserFaultMessage) device fetches) :=
  .of_pieces (run_cut env (udp47Cutting env Pt Fault parserFaultMessage) device hp hangle frame info fetches hblocks)

def atxPacket (frameId : UInt8) : UdpPacket :=
  UdpPacket.ofBytes [0xEE, 0xFF, 4, 7, 0, 0, 0, 1, 0, 0, 0, 0, 0, 0, 0, 0, 0, 0, 0, 0, 0, 0, 0, 0, 0, 0, 0, 0, 0, frameId]

/-- A fault message among the packets: where they count their blocks it has a zero. -/
def atxFetches : List Fetch :=
  [⟨some (atxPacket 3), true⟩, ⟨some { (default : UdpPacket) with packetLen := kFaultMessageLength }, true⟩,
    ⟨some (atxPacket 4), true⟩, ⟨some (atxPacket 6), true⟩]

lemma atxFetches_blocks : ∀ fetch ∈ atxFetches, ∀ packet, DeviceFilter.Decodes ⟨0, 0, 0⟩ fetch packet →
    (V47.headerAt default packet).getBlockNum ≠ 0 := by
  intro fetch hfetch packet ⟨packetIndex, hdecodes⟩
  simp only [atxFetches, List.mem_cons, List.not_mem_nil, or_false] at hfetch
  rcases hfetch with rfl | rfl | rfl | rfl
  all_goals cases hdecodes
  all_goals decide

theorem run_atxFrames_example :
    let r := (start ⟨some { (default : Udp47Parser) with getCorrectionFile := true }, true, 0, 0, 0, true, 1⟩
      default ()).run default (udp47 default LidarPointXYZICRT Unit fun _ info => info) ⟨0, 0, 0⟩ atxFetches
    (frames r).flatten = acceptedPackets r.log ∧ frames r = [[atxPacket 3], [atxPacket 4, atxPacket 6]] := by
  have h := run_atxFrames default (fun _ info => info) ⟨0, 0, 0⟩
    (u := ⟨some { (default : Udp47Parser) with getCorrectionFile := true }, true, 0, 0, 0, true, 1⟩) rfl rfl
    (default : LidarDecodedFrame LidarPointXYZICRT) () atxFetches atxFetches_blocks
  exact ⟨h.flatten, by rfl⟩

/-- With the FT120 parser the column never falls within a frame, and falls from a frame that is not full to the next. -/
theorem run_ftFrames (env : Environment) (device : DeviceFilter) [Point Pt] {u : UdpParser Udp72Parser}
    {p : Udp72Parser} (hp : u.parser = some p) (frame : LidarDecodedFrame Pt) (info : Fault) (fetches : List Fetch) :
    let r := (start u frame info).run env (udp72 env Pt Fault) device fetches
    (frames r).flatten = acceptedPackets r.log ∧
      (∀ frame ∈ frames r, frame.Pairwise fun a b => Udp72Parser.columnIdAt env a ≤ Udp72Parser.columnIdAt env b) ∧
      (frames r).IsChain fun f g => f.length = kMaxPacketNumPerFrame ∨
        ∀ a ∈ f.getLast?, ∀ b ∈ g.head?, Udp72Parser.columnIdAt env b < Udp72Parser.columnIdAt env a := by
  intro r
  have h := run_cut env (udp72Cutting env Pt Fault) device hp trivial frame info fetches fun _ _ _ _ => trivial
  have htrans : IsTrans UdpPacket fun a b => Udp72Parser.columnIdAt env a ≤ Udp72Parser.columnIdAt env b :=
    ⟨fun _ _ _ => UInt16.le_trans⟩
  refine ⟨h.flatten, fun frame hframe => ?_, h.between.imp fun f g hends => hends.imp id fun hpart a ha b hb => ?_⟩
  · exact List.isChain_iff_pairwise.mp ((h.within frame hframe).imp fun a b hab => of_decide_eq_true hab)
  · exact UInt16.not_le.mp (of_decide_eq_false (hpart a ha b hb))

def ftPacket (columnId : UInt8) : UdpPacket :=
  UdpPacket.ofBytes ([0xEE, 0xFF, 7, 2] ++ List.replicate 28 0 ++ [columnId, 0])

theorem run_ftFrames_example :
    let r := (start ⟨some { (default : Udp72Parser) with getCorrectionFile := true }, true, 0, 0, 0, true, 1⟩
      default ()).run default (udp72 default LidarPointXYZICRT Unit) ⟨0, 0, 0⟩
      ([ftPacket 4, ftPacket 9, ftPacket 0].map fun packet => ⟨some packet, true⟩)
    (frames r).flatten = acceptedPackets r.log ∧ frames r = [[ftPacket 4, ftPacket 9], [ftPacket 0]] := by
  have h := run_ftFrames default ⟨0, 0, 0⟩
    (u := ⟨some { (default : Udp72Parser) with getCorrectionFile := true }, true, 0, 0, 0, true, 1⟩) rfl
    (default : LidarDecodedFrame LidarPointXYZICRT) ()
    ([ftPacket 4, ftPacket 9, ftPacket 0].map fun packet => ⟨some packet, true⟩)
  exact ⟨h.1, by rfl⟩

end Results

end RunState

end HesaiSdk.Driver
